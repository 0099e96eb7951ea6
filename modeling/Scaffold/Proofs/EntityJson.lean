import Scaffold.Proofs.AcceptedJson
import Scaffold.Proofs.EntryText
import Scaffold.Proofs.Overlooked
import Scaffold.Proofs.PrettyJson
import Scaffold.Proofs.Printing

/-!
# Entities and their JSON

The JSON of an entity says more than is read from it: whether a property is a key candidate is written
but follows from its name. So an entity is read back from its JSON, and nothing that a text says
about keys makes a difference.

* `Entity.meaning_laidOut`: an entity over several lines is read as what it is.
* `Entity.overlooks_reader`: members that are no fields are not seen.
* `Entity.exists_document`: an entity is read from nothing but JSON.
* `Entity.json_faithful`: entities are read back, and keys cannot be made up.
-/

namespace Scaffold

open Json (Document Tree)
open Json.Reader (Settles Overlooks TakesValue meaning)

namespace Property

theorem settles_fields : ∀ field ∈ jsonFields, ∀ r, Settles (field.read r) := by
  refine List.forall_mem_cons.mpr ⟨fun r => ?_, List.forall_mem_singleton.mpr fun r => ?_⟩
  · exact Json.Reader.settles_text.bind_pure _
  · exact Json.Reader.settles_text.bind_pure _

theorem settles_reader : Settles reader := Json.Reader.settles_record settles_fields _ _

theorem overlooks_reader {name : String} (h : ∀ field ∈ jsonFields, field.name ≠ name) :
    Overlooks name reader := by
  refine Json.Reader.overlooks_record settles_fields ?_ h _ _
  refine List.forall_mem_cons.mpr ⟨fun r => ?_, List.forall_mem_singleton.mpr fun r => ?_⟩
  · exact (Json.Reader.overlooks_text name).bind_pure Json.Reader.settles_text _
  · exact (Json.Reader.overlooks_text name).bind_pure Json.Reader.settles_text _

theorem takesValue_reader : TakesValue reader := by
  refine Json.Reader.takesValue_record ?_ _ _
  refine List.forall_mem_cons.mpr ⟨fun r => ?_, List.forall_mem_singleton.mpr fun r => ?_⟩
  · exact Json.Reader.takesValue_text.bind_pure _
  · exact Json.Reader.takesValue_text.bind_pure _

theorem meaning_laidOut (level : Nat) (p : Property) :
    meaning reader (p.json.laidOut level) = some p := by
  have hname : meaning (Json.Reader.text >>= fun s => pure { ({} : Reading) with name := some s })
      (Json.laidOut (level + 1) (.text p.name)) = some ⟨some p.name, none⟩ := by
    rw [Json.Reader.settles_text.meaning_bind_pure, Json.meaning_text_laidOut, Option.map_some]
  have htype : meaning (Json.Reader.text >>= fun s =>
      pure { (⟨some p.name, none⟩ : Reading) with type := some s })
      (Json.laidOut (level + 1) (.text p.type)) = some ⟨some p.name, some p.type⟩ := by
    rw [Json.Reader.settles_text.meaning_bind_pure, Json.meaning_text_laidOut, Option.map_some]
  rw [reader, (Json.Reader.means_record settles_fields {} Reading.complete _).meaning_eq, json,
    Json.laidOut, Tree.record?, Json.laidOutMembers, Json.laidOutMembers, Json.laidOutMembers,
    Json.laidOutMembers,
    Json.foldlM_takeMember_cons (Json.takeMember_of_field rfl rfl rfl hname),
    Json.foldlM_takeMember_cons (Json.takeMember_of_field rfl rfl rfl htype),
    Json.foldlM_takeMember_cons (Json.takeMember_of_no_field rfl rfl)]
  exact Reading.complete_eq p

end Property

namespace Entity

theorem settles_fields : ∀ field ∈ jsonFields, ∀ r, Settles (field.read r) := by
  refine List.forall_mem_cons.mpr ⟨fun r => ?_, List.forall_mem_singleton.mpr fun r => ?_⟩
  · exact Json.Reader.settles_text.bind_pure _
  · exact Property.settles_reader.list.bind_pure _

theorem settles_reader : Settles reader := Json.Reader.settles_record settles_fields _ _

/-- Members that are fields neither of entities nor of properties are not seen. -/
theorem overlooks_reader {name : String} (h : ∀ field ∈ jsonFields, field.name ≠ name)
    (hproperty : ∀ field ∈ Property.jsonFields, field.name ≠ name) : Overlooks name reader := by
  refine Json.Reader.overlooks_record settles_fields ?_ h _ _
  refine List.forall_mem_cons.mpr ⟨fun r => ?_, List.forall_mem_singleton.mpr fun r => ?_⟩
  · exact (Json.Reader.overlooks_text name).bind_pure Json.Reader.settles_text _
  · exact ((Property.overlooks_reader hproperty).list Property.settles_reader).bind_pure
      Property.settles_reader.list _

theorem takesValue_reader : TakesValue reader := by
  refine Json.Reader.takesValue_record ?_ _ _
  refine List.forall_mem_cons.mpr ⟨fun r => ?_, List.forall_mem_singleton.mpr fun r => ?_⟩
  · exact Json.Reader.takesValue_text.bind_pure _
  · exact Property.takesValue_reader.list.bind_pure _

theorem meaning_laidOut (level : Nat) (e : Entity) :
    meaning reader (e.json.laidOut level) = some e := by
  have hname : meaning (Json.Reader.text >>= fun s => pure { ({} : Reading) with name := some s })
      (Json.laidOut (level + 1) (.text e.name)) = some ⟨some e.name, none⟩ := by
    rw [Json.Reader.settles_text.meaning_bind_pure, Json.meaning_text_laidOut, Option.map_some]
  have hproperties : meaning (Json.Reader.list Property.reader >>= fun ps =>
      pure { (⟨some e.name, none⟩ : Reading) with properties := some ps })
      (Json.laidOut (level + 1) (.array (e.properties.map Property.json))) =
        some ⟨some e.name, some e.properties⟩ := by
    rw [Property.settles_reader.list.meaning_bind_pure,
      Json.meaning_list_laidOut Property.settles_reader Property.meaning_laidOut, Option.map_some]
  rw [reader, (Json.Reader.means_record settles_fields {} Reading.complete _).meaning_eq, json,
    Json.laidOut, Tree.record?, Json.laidOutMembers, Json.laidOutMembers, Json.laidOutMembers,
    Json.foldlM_takeMember_cons (Json.takeMember_of_field rfl rfl rfl hname),
    Json.foldlM_takeMember_cons (Json.takeMember_of_field rfl rfl rfl hproperties)]
  rfl

/-! ### Texts -/

/-- What is read from a JSON text depends on the value in it. -/
theorem ofJson_text (d : Document) : (ofJson d.text).toOption = meaning reader d.value :=
  Json.Reader.run_text settles_reader d

/-- A text that an entity is read from is JSON. -/
theorem exists_document {text : String} {e : Entity} (h : ofJson text = .ok e) :
    ∃ d : Document, d.text = text :=
  takesValue_reader.exists_document h

theorem ofJson_of_meaning {d : Document} {e : Entity} (h : meaning reader d.value = some e) :
    ofJson d.text = .ok e := by
  rw [← ofJson_text] at h
  cases hread : ofJson d.text with
  | error f =>
    rw [hread] at h
    cases h
  | ok e' =>
    rw [hread] at h
    cases h
    rfl

theorem meaning_of_ofJson {d : Document} {e : Entity} (h : ofJson d.text = .ok e) :
    meaning reader d.value = some e := by
  rw [← ofJson_text, h]
  rfl

theorem ofJson_compact (e : Entity) : ofJson e.json.compact = .ok e := by
  have hread := e.decodes_json [] .nil
  rw [List.append_nil] at hread
  rw [ofJson, Json.Reader.run, hread]
  rfl

/-- An entity over several lines is read back, whatever blanks stand behind it. -/
theorem ofJson_of_pretty {e : Entity} {text : String} (gap : Json.Gap)
    (h : text.toList = e.json.pretty.toList ++ gap.val) : ofJson text = .ok e := by
  have htext : (Document.mk .none (e.json.laidOut 0) gap).text = text := by
    apply String.toList_injective
    rw [Document.text, String.toList_ofList, Json.text_laidOut, h, Json.pretty, Json.Gap.none,
      List.nil_append]
  rw [← htext]
  exact ofJson_of_meaning (meaning_laidOut 0 e)

theorem ofJson_pretty (e : Entity) : ofJson e.json.pretty = .ok e :=
  ofJson_of_pretty Json.Gap.none (List.append_nil _).symm

theorem ofJson_pretty_line (e : Entity) : ofJson (e.json.pretty ++ "\n") = .ok e :=
  ofJson_of_pretty ⟨['\n'], List.forall_mem_singleton.mpr rfl⟩ String.toList_append

end Entity

/-! ### Faithfulness -/

namespace Entity

/-- **The JSON of an entity says what the entity is, and nothing else in a JSON text counts.** An
entity is read back from its JSON on one line and over several lines, and so is the one that is
printed. Whatever text an entity is read from, the text is JSON and its key candidates are told by
their names, and two JSON texts that differ in nothing but `is_primary_key` members and blanks are
read alike. -/
theorem json_faithful :
    (∀ e : Entity, ofJson e.json.compact = .ok e ∧ ofJson e.json.pretty = .ok e) ∧
    (∀ (args : List String) (a : CommandLine.Arguments) (s : Session) (text : String) (e : Entity),
      Program.printer.manual.read args = .ready a → a.has "json" = true →
      Text.decode? s.terminal.input = some text → parse text = .ok e →
      s.terminal.HasRoom (e.json.pretty ++ "\n").utf8ByteSize →
      ∃ s' printed, (Program.printer.run Session.host args).run s = (.exit 0, s') ∧
        s'.terminal.output = s.terminal.output ++ Text.encode printed ∧
        ofJson printed = .ok e) ∧
    (∀ (text : String) (e : Entity), ofJson text = .ok e → (∃ d : Document, d.text = text) ∧
      ∀ p ∈ e.properties, p.isKey = true ↔ keySuffix.toList <:+ p.name.toList) ∧
    (∀ (d d' : Document) (e : Entity),
      d.value.without "is_primary_key" = d'.value.without "is_primary_key" →
      ofJson d.text = .ok e → ofJson d'.text = .ok e) := by
  refine ⟨fun e => ⟨ofJson_compact e, ofJson_pretty e⟩, ?_,
    fun _ _ hread => ⟨exists_document hread, fun _ _ => Property.isKey_iff⟩, ?_⟩
  · intro args a s text e hargs hjson htext he hroom
    have hprinted : Program.entityText a e = e.json.pretty ++ "\n" := if_pos hjson
    have hread := ofJson_pretty_line e
    rw [← hprinted] at hroom hread
    have hemptied : ({ s.terminal with input := [] } : Terminal).HasRoom
        (Program.entityText a e).utf8ByteSize := hroom
    exact ⟨_, _, Program.run_printer_of_room hargs htext he hroom, Terminal.output_say hemptied,
      hread⟩
  · intro d d' e hsame hread
    have hoverlooks : Overlooks "is_primary_key" reader :=
      overlooks_reader (by decide) (by decide)
    apply ofJson_of_meaning
    rw [← hoverlooks d'.value, ← hsame, hoverlooks d.value]
    exact meaning_of_ofJson hread

/-- Members about keys that the text of an entity makes up, of any kind and more than one, change
nothing, and the printed entity is read back. -/
theorem json_faithful_of_forged_flags :
    ofJson (Document.text ⟨.none, .object [
      ({ glyphs := Json.glyphs "name" }, .string (Json.glyphs "Order")),
      ({ glyphs := Json.glyphs "properties" }, .array [({}, .object [
        ({ glyphs := Json.glyphs "is_primary_key" }, .array [({}, .bool true)] .none),
        ({ glyphs := Json.glyphs "name" }, .string (Json.glyphs "Total")),
        ({ glyphs := Json.glyphs "type" }, .string (Json.glyphs "int")),
        ({ glyphs := Json.glyphs "is_primary_key" }, .null)] .none)] .none)] .none, .none⟩) =
      .ok ⟨"Order", [.of "Total" "int"]⟩ ∧
    ∃ s' printed, (Program.printer.run Session.host ["--json"]).run { terminal :=
        { input := Text.encode "public class Order \x7b public int Total \x7b get; set; \x7d \x7d" } } =
        (.exit 0, s') ∧ s'.terminal.output = Text.encode printed ∧
      ofJson printed = .ok ⟨"Order", [.of "Total" "int"]⟩ := by
  constructor
  · refine json_faithful.2.2.2 ⟨.none, Json.laidOut 0 (json ⟨"Order", [.of "Total" "int"]⟩), .none⟩ _ _
      ?_ (ofJson_of_meaning (meaning_laidOut 0 _))
    simp [json, Property.json, Json.laidOut, Json.laidOutItems, Json.laidOutMembers, Tree.without,
      Tree.itemsWithout, Tree.membersWithout, Json.Label.name?, Json.spelled_glyphs]
  · have hparse : parse "public class Order \x7b public int Total \x7b get; set; \x7d \x7d" =
        .ok ⟨"Order", [.of "Total" "int"]⟩ := by decide +kernel
    exact json_faithful.2.1 ["--json"] ⟨[("json", none)], []⟩ _ _ _ (by decide) (by decide)
      (Text.decode?_encode _) hparse
      (Terminal.hasRoom_of_no_limit rfl _)

end Entity

end Scaffold
