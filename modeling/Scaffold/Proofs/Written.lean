import Scaffold.Source
import Scaffold.Proofs.Calm
import Mathlib.Data.List.Forall2

/-!
# What a generated file declares

A file that declares data is a definition itself: reading it gives back the fields that were
written into it. Every class of such a file contributes its fields in order, and everything else,
from the namespaces in use to the class headers and the initializers, declares nothing.

* `Member.declarations_lines`: what a field contributes.
* `ClassDecl.readsAs_of_no_base`, `ClassDecl.readsAs_of_base`: what a class contributes, whatever
  follows it.
* `SourceFile.declarations_text`: what a file contributes.
-/

namespace Scaffold

open Text Definition

/-! ### Fields -/

/-- A text without blanks, possibly empty. -/
def NoBlank (s : String) : Prop := ∀ c ∈ s.toList, isBlank c = false

instance (s : String) : Decidable (NoBlank s) := List.decidableBAll (isBlank · = false) s.toList

theorem NoBlank.append {s t : String} (hs : NoBlank s) (ht : NoBlank t) : NoBlank (s ++ t) := by
  intro c hc
  rw [String.toList_append] at hc
  rcases List.mem_append.mp hc with h | h
  · exact hs c h
  · exact ht c h

/-- A member that is written as the declaration of a property. What initializes it is calm. -/
inductive Member.Declares : Member → Property → Prop where
  | plain {p : Property} : IsToken p.type.toList → IsToken p.name.toList →
      Declares (.field p.type p.name none) p
  | initialized {p : Property} {value : String} : IsToken p.type.toList → IsToken p.name.toList →
      calm (" = " ++ value ++ ";\n").toList = true →
      Declares (.field p.type p.name (some value)) p

theorem toList_unlines_cons (line : String) (lines : List String) (rest : List Char) :
    (unlines (line :: lines)).toList ++ rest =
      line.toList ++ ('\n' :: ((unlines lines).toList ++ rest)) := by
  simp [unlines]

theorem toList_unlines_append (xs ys : List String) (rest : List Char) :
    (unlines (xs ++ ys)).toList ++ rest = (unlines xs).toList ++ ((unlines ys).toList ++ rest) := by
  rw [unlines_append, String.toList_append, List.append_assoc]

/-- The accessors as they are written. -/
theorem isAccessors_written : IsAccessors " \x7b get; set; \x7d".toList := by
  have hblank : Blanks [' '] := by decide
  have h := IsAccessors.mk hblank hblank hblank hblank
  exact h

/-- The line of a field up to its accessors is read as its declaration. -/
theorem declarations_accessors {p : Property} (htype : IsToken p.type.toList)
    (hname : IsToken p.name.toList) (rest : List Char) :
    declarations
        (("    public " ++ p.type ++ " " ++ p.name ++ " \x7b get; set; \x7d").toList ++ rest) =
      p :: declarations rest := by
  have hindent : calm "    ".toList = true := by decide
  have hspace : Separates [' '] := by decide
  have hends : Ends (" \x7b get; set; \x7d".toList ++ rest) := by
    intro c hc
    cases hc
    decide
  have htext :
      ("    public " ++ p.type ++ " " ++ p.name ++ " \x7b get; set; \x7d").toList ++ rest =
      "    ".toList ++ ("public".toList ++ ([' '] ++ (p.type.toList ++ ([' '] ++
        (p.name.toList ++ (" \x7b get; set; \x7d".toList ++ rest)))))) := by
    simp
  rw [htext, declarations_calm hindent,
    declarations_declaration hspace htype hspace hname isAccessors_written hends,
    String.ofList_toList, String.ofList_toList, Property.of_name_type]

namespace Member

/-- A field contributes its property. -/
theorem declarations_lines {m : Member} {p : Property} (h : m.Declares p) (rest : List Char) :
    declarations ((unlines m.lines).toList ++ rest) = p :: declarations rest := by
  cases h with
  | plain htype hname =>
    have hnewline : calm ['\n'] = true := by decide
    rw [Member.lines, toList_unlines_cons, declarations_accessors htype hname]
    exact congrArg _ (declarations_calm hnewline rest)
  | @initialized p value htype hname hvalue =>
    have htext : (unlines (Member.field p.type p.name (some value)).lines).toList ++ rest =
        ("    public " ++ p.type ++ " " ++ p.name ++ " \x7b get; set; \x7d").toList ++
          ((" = " ++ value ++ ";\n").toList ++ rest) := by
      simp [Member.lines, unlines]
    rw [htext, declarations_accessors htype hname, declarations_calm hvalue]

/-- Fields contribute their properties in order. -/
theorem declarations_flatMap_lines {ms : List Member} {ps : List Property}
    (h : List.Forall₂ Declares ms ps) (rest : List Char) :
    declarations ((unlines (ms.flatMap Member.lines)).toList ++ rest) =
      ps ++ declarations rest := by
  induction h with
  | nil => rfl
  | cons hm _ ih =>
    rw [List.flatMap_cons, toList_unlines_append, declarations_lines hm, ih]
    rfl

/-- The text of some fields and a closing brace does not begin with an accessor. -/
theorem after?_get_body {ms : List Member} {ps : List Property} (h : List.Forall₂ Declares ms ps)
    (rest : List Char) :
    after? "get;".toList
      (trimStart ((unlines (ms.flatMap Member.lines ++ ["\x7d"])).toList ++ rest)) = none := by
  cases h with
  | nil => rfl
  | cons hm _ =>
    cases hm with
    | plain _ _ =>
      simp [Member.lines, unlines]
      rfl
    | initialized _ _ _ =>
      simp [Member.lines, unlines]
      rfl

end Member

/-! ### Classes -/

/-- A name that a generated class may have: word characters only, and an end that tells it from
`public`. -/
structure IsClassName (s : String) : Prop where
  isWordRun : IsWordRun s.toList
  last_ne : s.toList.getLast? ≠ some 'c'

namespace ClassDecl

/-- A class contributes the given properties, whatever follows it. -/
def ReadsAs (c : ClassDecl) (ps : List Property) : Prop :=
  ∀ rest, declarations ((unlines c.lines).toList ++ rest) = ps ++ declarations rest

/-- What stands in a class below its header, up to the closing brace. -/
def body (c : ClassDecl) : List String := c.members.flatMap Member.lines ++ ["\x7d"]

theorem lines_eq (c : ClassDecl) : c.lines = c.header :: "\x7b" :: c.body := rfl

variable {c : ClassDecl} {ps : List Property}

theorem declarations_body (h : List.Forall₂ Member.Declares c.members ps) (rest : List Char) :
    declarations ((unlines c.body).toList ++ rest) = ps ++ declarations rest := by
  have hclose : calm (unlines ["\x7d"]).toList = true := by decide
  rw [body, toList_unlines_append, Member.declarations_flatMap_lines h, declarations_calm hclose]

/-- No accessors stand between the header of a class and its fields. -/
theorem afterAccessors?_body (h : List.Forall₂ Member.Declares c.members ps) (rest : List Char) :
    afterAccessors? ("\n\x7b\n".toList ++ ((unlines c.body).toList ++ rest)) = none := by
  have hbrace : after? "\x7b".toList
      (trimStart ("\n\x7b\n".toList ++ ((unlines c.body).toList ++ rest))) =
        some ('\n' :: ((unlines c.body).toList ++ rest)) := rfl
  have hget : after? "get;".toList (trimStart ('\n' :: ((unlines c.body).toList ++ rest))) = none :=
    Member.after?_get_body h rest
  rw [afterAccessors?, hbrace]
  simp only [Option.bind_eq_bind, Option.bind_some]
  rw [hget]
  rfl

/-- A class that derives from nothing, as it is written. -/
theorem toList_lines_of_no_base (hsealed : c.isSealed = false) (hbase : c.base = none)
    (rest : List Char) :
    (unlines c.lines).toList ++ rest =
      "public".toList ++ ([' '] ++ ("class".toList ++ ([' '] ++ (c.name.toList ++
        ("\n\x7b\n".toList ++ ((unlines c.body).toList ++ rest)))))) := by
  have hheader : c.header = "public class " ++ c.name := by
    rw [header, hsealed, hbase]
    exact String.append_empty
  rw [lines_eq, toList_unlines_cons, toList_unlines_cons, hheader]
  simp

/-- A class that derives from nothing is found by its header. -/
theorem className?_lines_of_no_base (hsealed : c.isSealed = false) (hbase : c.base = none)
    (hname : IsWordRun c.name.toList) (rest : List Char) :
    className? ((unlines c.lines).toList ++ rest) = some c.name.toList := by
  have hspace : Separates [' '] := by decide
  have hstop : ∀ d, ("\n\x7b\n".toList ++ ((unlines c.body).toList ++ rest)).head? = some d →
      isWord d = false := by
    intro d hd
    cases hd
    decide +kernel
  refine className?_eq_some_iff.mpr ⟨0, ?_, fun j hj => absurd hj (Nat.not_lt_zero j)⟩
  refine classNameAt?_eq_some_iff.mpr ⟨_, _, .mk hspace hspace, hname, hstop, ?_⟩
  rw [List.drop_zero, toList_lines_of_no_base hsealed hbase]
  simp only [List.append_assoc]

/-- A class that derives from nothing contributes its fields: its header would declare a property
of type `class` if an accessor stood in front of the first field. -/
theorem readsAs_of_no_base (hsealed : c.isSealed = false) (hbase : c.base = none)
    (hname : IsClassName c.name) (h : List.Forall₂ Member.Declares c.members ps) :
    c.ReadsAs ps := by
  intro rest
  have hspace : Separates [' '] := by decide
  have hends : Ends ("\n\x7b\n".toList ++ ((unlines c.body).toList ++ rest)) := by
    intro d hd
    cases hd
    decide
  have hcalm : calm ("ublic class ".toList ++ ((c.name.toList ++ ['\n']) ++ "\x7b\n".toList)) =
      true :=
    calm_append (by decide) (calm_append
      (calm_word hname.isWordRun.isToken.2 hname.last_ne (by decide)) (by decide))
  have hgap : "ublic".toList ++ ([' '] ++ ("class".toList ++ ([' '] ++ (c.name.toList ++
      ("\n\x7b\n".toList ++ ((unlines c.body).toList ++ rest)))))) =
      "ublic class ".toList ++ ((c.name.toList ++ ['\n']) ++ "\x7b\n".toList) ++
        ((unlines c.body).toList ++ rest) := by
    simp
  rw [toList_lines_of_no_base hsealed hbase,
    declarations_header hspace (by decide) hspace hname.isWordRun.isToken
    hname.isWordRun.brace_not_mem hends (afterAccessors?_body h rest), hgap,
    declarations_calm hcalm, declarations_body h]

/-- A sealed class with a base contributes its fields: behind `class` there is its name and not an
accessor. -/
theorem readsAs_of_base {base : Base} (hsealed : c.isSealed = true) (hbase : c.base = some base)
    (hname : IsClassName c.name) (hword : NoBlank base.text)
    (hlast : base.text.toList.getLast? ≠ some 'c')
    (h : List.Forall₂ Member.Declares c.members ps) : c.ReadsAs ps := by
  intro rest
  have hspace : Separates [' '] := by decide
  have hheader : c.header = "public sealed class " ++ c.name ++ (" : " ++ base.text) := by
    rw [header, hsealed, hbase]
    rfl
  have htext : (unlines c.lines).toList ++ rest =
      "public".toList ++ ([' '] ++ ("sealed".toList ++ ([' '] ++ ("class".toList ++
        (' ' :: (c.name.toList ++ (" : ".toList ++ (base.text.toList ++
          ("\n\x7b\n".toList ++ ((unlines c.body).toList ++ rest)))))))))) := by
    rw [lines_eq, toList_unlines_cons, toList_unlines_cons, hheader]
    simp
  generalize htail : ' ' :: (c.name.toList ++ (" : ".toList ++ (base.text.toList ++
    ("\n\x7b\n".toList ++ ((unlines c.body).toList ++ rest))))) = tail at htext
  have hends : Ends tail := by
    subst htail
    intro d hd
    cases hd
    decide
  have hacc : afterAccessors? tail = none := by
    subst htail
    cases hn : c.name.toList with
    | nil => exact absurd hn hname.isWordRun.1
    | cons d name =>
      have hd : d ∈ c.name.toList := hn ▸ List.mem_cons_self
      have hblank : isBlank d = false := hname.isWordRun.isToken.2 d hd
      have hbrace : d ≠ '\x7b' := fun h => hname.isWordRun.brace_not_mem (h ▸ hd)
      rw [List.cons_append, ← afterAccessors?_cons hblank hbrace]
      rfl
  have hcalm : calm ("ublic sealed class ".toList ++ ((c.name.toList ++ [' ']) ++ (": ".toList ++
      ((base.text.toList ++ ['\n']) ++ "\x7b\n".toList)))) = true :=
    calm_append (by decide) (calm_append
      (calm_word hname.isWordRun.isToken.2 hname.last_ne (by decide)) (calm_append (by decide)
        (calm_append (calm_word hword hlast (by decide)) (by decide))))
  have hgap : "ublic".toList ++ ([' '] ++ ("sealed".toList ++ ([' '] ++ ("class".toList ++
      tail)))) = "ublic sealed class ".toList ++ ((c.name.toList ++ [' ']) ++ (": ".toList ++
      ((base.text.toList ++ ['\n']) ++ "\x7b\n".toList))) ++
        ((unlines c.body).toList ++ rest) := by
    subst htail
    simp
  rw [htext, declarations_header hspace (by decide) hspace (by decide) (by decide) hends hacc,
    hgap, declarations_calm hcalm, declarations_body h]

end ClassDecl

/-! ### Files -/

theorem getLast?_toList_append {s t : String} {c : Char} (h : t.toList.getLast? = some c) :
    (s ++ t).toList.getLast? = some c := by
  rw [String.toList_append, List.getLast?_append, h]
  rfl

/-- A line that names a namespace is calm. -/
theorem calm_statement {keyword space : String} (hkeyword : calm keyword.toList = true)
    (hspace : NoBlank space) : calm ((keyword ++ space ++ ";").toList ++ ['\n']) = true := by
  have hword : NoBlank (space ++ ";") := hspace.append (by decide)
  have hend : ";".toList.getLast? = some ';' := by decide
  have hlast : (space ++ ";").toList.getLast? ≠ some 'c' := by
    rw [getLast?_toList_append hend]
    decide
  rw [String.append_assoc, String.toList_append, List.append_assoc]
  exact calm_append hkeyword (calm_word hword hlast (by decide))

namespace SourceFile

/-- The lines of a file in front of its classes. -/
def preamble (f : SourceFile) : List String :=
  (if f.uses.isEmpty then [] else f.uses.map useLine ++ [""]) ++ [homeLine f.home, ""]

theorem calm_uses {uses : List String} (h : ∀ space ∈ uses, NoBlank space) :
    calm (unlines (uses.map useLine)).toList = true := by
  induction uses with
  | nil => rfl
  | cons space uses ih =>
    have htext : (unlines ((space :: uses).map useLine)).toList =
        ((useLine space).toList ++ ['\n']) ++ (unlines (uses.map useLine)).toList := by
      simp [unlines]
    rw [htext]
    exact calm_append (calm_statement (by decide) (h space List.mem_cons_self))
      (ih fun s hs => h s (List.mem_cons_of_mem _ hs))

theorem calm_preamble {f : SourceFile} (huses : ∀ space ∈ f.uses, NoBlank space)
    (hhome : NoBlank f.home) : calm (unlines f.preamble).toList = true := by
  have hblank : calm (unlines [""]).toList = true := by decide
  have hlast : calm (unlines [homeLine f.home, ""]).toList = true := by
    have htext : (unlines [homeLine f.home, ""]).toList =
        ((homeLine f.home).toList ++ ['\n']) ++ (unlines [""]).toList := by
      simp [unlines]
    rw [htext]
    exact calm_append (calm_statement (by decide) hhome) hblank
  rw [preamble, unlines_append, String.toList_append]
  refine calm_append ?_ hlast
  split
  · rfl
  · rw [unlines_append, String.toList_append]
    exact calm_append (calm_uses huses) hblank

/-- Classes contribute one after the other; the empty lines between them contribute nothing. -/
theorem declarations_classes {cs : List ClassDecl} {pss : List (List Property)}
    (h : List.Forall₂ ClassDecl.ReadsAs cs pss) (rest : List Char) :
    declarations ((unlines (List.intercalate [""] (cs.map ClassDecl.lines))).toList ++ rest) =
      pss.flatten ++ declarations rest := by
  have hblank : calm (unlines [""]).toList = true := by decide
  induction h with
  | nil => rfl
  | @cons c ps cs pss hc hcs ih =>
    cases cs with
    | nil =>
      cases hcs
      rw [List.map_singleton, List.intercalate_singleton, hc rest]
      simp
    | cons d cs =>
      rw [List.map_cons, List.map_cons, List.intercalate_cons_cons, List.append_assoc,
        toList_unlines_append, toList_unlines_append, hc, declarations_calm hblank]
      rw [List.map_cons] at ih
      rw [ih, List.flatten_cons, List.append_assoc]

theorem toList_text (f : SourceFile) :
    f.text.toList = (unlines f.preamble).toList ++
      (unlines (List.intercalate [""] (f.classes.map ClassDecl.lines))).toList := by
  have htext : f.text =
      unlines (f.preamble ++ List.intercalate [""] (f.classes.map ClassDecl.lines)) := rfl
  rw [htext, unlines_append, String.toList_append]

/-- A file contributes what its classes do. -/
theorem declarations_text {f : SourceFile} {pss : List (List Property)}
    (huses : ∀ space ∈ f.uses, NoBlank space) (hhome : NoBlank f.home)
    (h : List.Forall₂ ClassDecl.ReadsAs f.classes pss) :
    declarations f.text.toList = pss.flatten := by
  have hread := declarations_classes h []
  rw [List.append_nil, declarations_nil, List.append_nil] at hread
  rw [f.toList_text, declarations_calm (calm_preamble huses hhome), hread]

/-- A file whose first class derives from nothing is found by the header of that class. -/
theorem className?_text {f : SourceFile} {c : ClassDecl} {cs : List ClassDecl}
    (huses : ∀ space ∈ f.uses, NoBlank space) (hhome : NoBlank f.home)
    (hclasses : f.classes = c :: cs)
    (hsealed : c.isSealed = false) (hbase : c.base = none) (hname : IsWordRun c.name.toList) :
    className? f.text.toList = some c.name.toList := by
  rw [f.toList_text, className?_calm (calm_preamble huses hhome), hclasses]
  cases cs with
  | nil =>
    have := c.className?_lines_of_no_base hsealed hbase hname []
    rw [List.append_nil] at this
    rw [List.map_singleton, List.intercalate_singleton, this]
  | cons d cs =>
    rw [List.map_cons, List.map_cons, List.intercalate_cons_cons, List.append_assoc, unlines_append,
      String.toList_append]
    exact c.className?_lines_of_no_base hsealed hbase hname _

end SourceFile

end Scaffold
