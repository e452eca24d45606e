import Pastiche.Log.Line
import Pastiche.Proofs.Json.Members
import Pastiche.Proofs.Text.Split

/-!
A record in JSON is one line that carries its texts intact. Whatever the target and the message
are, no control is left in the line, and the only members in it are those of the record. That
holds of the line that is written without a library for JSON too, as long as its time needs no
escape.
-/

namespace Pastiche

namespace Log

open Json Json.Reader

/-- Wherever it stands, the text is read as the value in one step, and no control is in it. -/
structure Spells (text : List Char) (content : Json) : Prop where
  read : ∀ rest, ReadsAtOnce (text ++ rest) content rest
  printable : text.all isPrintable = true

theorem spells_enclosed {text : List Char} {content : String}
    (hread : ∀ rest, Scan.stringBody (text ++ '"' :: rest) = .ok (content.toList, rest))
    (hprintable : text.all isPrintable = true) : Spells (enclosed text) (.string content) := by
  refine ⟨fun rest => readsAtOnce_enclosed (hread rest), ?_⟩
  rw [enclosed, List.all_append, List.all_cons, hprintable]
  rfl

theorem spells_quote (content : String) : Spells (quote content.toList) (.string content) :=
  spells_enclosed (stringBody_escaped content.toList)
    (by simp [List.all_flatMap, escape_printable])

/-- A text in which nothing needs an escape may stand as it is. -/
theorem spells_self {content : String} (h : ∀ c ∈ content.toList, escape c = [c]) :
    Spells (enclosed content.toList) (.string content) := by
  have hsame : content.toList.flatMap escape = content.toList := by
    rw [List.flatMap_def, List.map_congr_left h, ← List.flatMap_def, List.flatMap_singleton']
  have hspells := spells_quote content
  rwa [quote, hsame] at hspells

theorem stringBody_plainEscape (c : Char) (rest : List Char) :
    Scan.stringBody (plainEscape c ++ rest) = Scan.push c (Scan.stringBody rest) := by
  unfold plainEscape
  split
  any_goals rfl
  rename_i hquote hslash _ _ _
  by_cases hcontrol : c.toNat < 0x20 ∨ 0x7f ≤ c.toNat ∧ c.toNat < 0xa0
  · rw [if_pos hcontrol]
    exact stringBody_code (by omega) rest
  · rw [if_neg hcontrol]
    exact stringBody_raw hquote hslash (by omega) rest

theorem plainEscape_printable (c : Char) : (plainEscape c).all isPrintable = true := by
  unfold plainEscape
  split
  any_goals rfl
  by_cases hcontrol : c.toNat < 0x20 ∨ 0x7f ≤ c.toNat ∧ c.toNat < 0xa0
  · rw [if_pos hcontrol]
    exact code_printable (by omega)
  · rw [if_neg hcontrol]
    have hcode : 0x20 ≤ c.toNat := by omega
    simpa [isPrintable] using hcode

theorem spells_plainEscape (content : String) :
    Spells (enclosed (content.toList.flatMap plainEscape)) (.string content) := by
  refine spells_enclosed (fun rest => ?_) (by simp [List.all_flatMap, plainEscape_printable])
  induction content.toList with
  | nil => rfl
  | cons c cs ih =>
    rw [List.flatMap_cons, List.append_assoc, stringBody_plainEscape, ih]
    rfl

theorem escape_name (level : Level) : ∀ c ∈ level.name.toList, escape c = [c] := by
  have hall : (level.name.toList.all fun c => escape c = [c]) = true := by
    cases level <;> decide
  simpa only [List.all_eq_true, decide_eq_true_eq] using hall

section Object

-- The members of an object with their names, the texts of their values and the values.
variable {members : List (String × List Char × Json)}

def texts (members : List (String × List Char × Json)) : List (String × List Char) :=
  members.map fun (name, text, _) => (name, text)

def values (members : List (String × List Char × Json)) : List (String × Json) :=
  members.map fun (name, _, value) => (name, value)

theorem jsonObject_append (members : List (String × List Char × Json)) (rest : List Char) :
    (jsonObject (texts members)).toList ++ rest =
      '\x7b' :: (separated (members.map fun (name, text, _) => quote name.toList ++ ':' :: text) ++
        '\x7d' :: rest) := by
  simp [jsonObject, texts, Function.comp_def]

theorem not_mem_jsonObject (h : ∀ member ∈ members, Spells member.2.1 member.2.2) {d : Char}
    (hd : isPrintable d = false) : d ∉ (jsonObject (texts members)).toList := by
  have hmember {name : String} {text : List Char} {value : Json}
      (hmem : (name, text, value) ∈ members) :
      (quote name.toList ++ ':' :: text).all isPrintable = true := by
    rw [List.all_append, quote_printable, List.all_cons, (h _ hmem).printable]
    rfl
  intro hmem
  rw [← List.append_nil (jsonObject _).toList, jsonObject_append, List.mem_cons, List.mem_append,
    List.mem_singleton] at hmem
  rcases hmem with rfl | hbody | rfl
  · cases hd
  · rcases Text.mem_intercalate hbody with rfl | ⟨text, htext, hinside⟩
    · cases hd
    · obtain ⟨⟨name, text, value⟩, hfrom, rfl⟩ := List.mem_map.mp htext
      rw [List.all_eq_true.mp (hmember hfrom) d hinside] at hd
      cases hd
  · cases hd

theorem hasMembers_jsonObject_iff (hne : members ≠ [])
    (h : ∀ member ∈ members, Spells member.2.1 member.2.2) {found : List (String × Json)} :
    HasMembers Reads (jsonObject (texts members)).toList found ↔ found = values members := by
  have hobject : HasMembers Reads (jsonObject (texts members)).toList (values members) := by
    rw [← List.append_nil (jsonObject _).toList, jsonObject_append]
    exact ⟨_, [], rfl, rfl, .inr (membersAt_texts hne
      (fun member hmember rest _ => (h member hmember).read rest _ _) [])⟩
  refine ⟨fun hfound => hfound.unique reads_functional hobject, ?_⟩
  rintro rfl
  exact hobject

theorem reads_jsonObject (hne : members ≠ [])
    (h : ∀ member ∈ members, Spells member.2.1 member.2.2) (rest : List Char) :
    Reads ((jsonObject (texts members)).toList ++ rest) (ofMembers (values members)) rest := by
  rw [jsonObject_append]
  refine value_object (membersAt_texts hne
    (fun member hmember next _ => (h member hmember).read next) rest) ?_ _
  have hlength := length_le_separated
    (members.map fun (name, text, _) => quote name.toList ++ ':' :: text)
  rw [List.length_map] at hlength ⊢
  rw [budget, List.length_cons, List.length_append, List.length_cons]
  omega

theorem read_jsonObject (hne : members ≠ [])
    (h : ∀ member ∈ members, Spells member.2.1 member.2.2) :
    Json.read (jsonObject (texts members)) = .ok (ofMembers (values members)) := by
  have hobject := reads_jsonObject hne h []
  rw [List.append_nil, Reads] at hobject
  rw [Json.read, hobject]
  rfl

end Object

def fields (clock : Clock) (record : Record) : List (String × List Char × Json) :=
  [("timestamp", quote clock.universal.toList, .string clock.universal),
    ("level", quote record.level.name.toList, .string record.level.name),
    ("target", quote record.target.toList, .string record.target),
    ("message", quote record.message.toList, .string record.message)]

theorem spells_fields (clock : Clock) (record : Record) :
    ∀ member ∈ fields clock record, Spells member.2.1 member.2.2 := by
  simp [fields, spells_quote]

theorem fields_ne_nil (clock : Clock) (record : Record) : fields clock record ≠ [] :=
  List.cons_ne_nil _ _

theorem ofMembers_fields (clock : Clock) (record : Record) :
    ofMembers (values (fields clock record)) = .object [("level", .string record.level.name),
      ("message", .string record.message), ("target", .string record.target),
      ("timestamp", .string clock.universal)] := rfl

theorem jsonLine_eq (clock : Clock) (record : Record) :
    jsonLine clock record = jsonObject (texts (fields clock record)) := rfl

theorem not_mem_jsonLine {clock : Clock} {record : Record} {d : Char} (hd : isPrintable d = false) :
    d ∉ (jsonLine clock record).toList :=
  not_mem_jsonObject (spells_fields clock record) hd

/-- What is written for records, one after another. -/
def journal (settings : Settings) (filter : Filter) (entries : List (Clock × Record)) :
    List Char :=
  entries.flatMap fun (clock, record) => (written settings filter clock record).toList

/-- The lines of the records that are let through. -/
def linesOf (filter : Filter) (entries : List (Clock × Record)) : List (List Char) :=
  (entries.filter fun (_, record) => filter.allows record.level).map
    fun (clock, record) => (jsonLine clock record).toList

theorem journal_cons (settings : Settings) (filter : Filter) (clock : Clock) (record : Record)
    (entries : List (Clock × Record)) :
    journal settings filter ((clock, record) :: entries) =
      (written settings filter clock record).toList ++ journal settings filter entries := rfl

theorem splitOn_journal (settings : Settings) (filter : Filter) (entries : List (Clock × Record)) :
    (journal { settings with format := .json } filter entries).splitOn '\n' =
      linesOf filter entries ++ [[]] := by
  induction entries with
  | nil => rfl
  | cons entry entries ih =>
    obtain ⟨clock, record⟩ := entry
    have hfeed : '\n' ∉ (jsonLine clock record).toList := not_mem_jsonLine rfl
    rw [journal_cons]
    by_cases hallowed : filter.allows record.level = true
    · have hwritten : (written { settings with format := .json } filter clock record).toList =
          (jsonLine clock record).toList ++ ['\n'] := by
        simp [written, hallowed, line]
      rw [hwritten, List.append_assoc, List.singleton_append,
        List.splitOn_append_cons_self_of_not_mem hfeed, ih]
      simp [linesOf, hallowed]
    · rw [written, if_neg hallowed]
      simpa [linesOf, hallowed] using ih

/-- The line of a record in JSON has no line break in it and is one object with four members, each
once, which hold the time, the name of the level, the target and the message as they are. Whatever
follows it, the object ends where the line ends, and a journal that is cut at its line feeds gives
the lines of its records and nothing else. -/
theorem json_record_intact (clock : Clock) (record : Record) :
    ('\n' ∉ (jsonLine clock record).toList ∧ '\r' ∉ (jsonLine clock record).toList) ∧
      (∀ members, HasMembers Reads (jsonLine clock record).toList members ↔
        members = [("timestamp", .string clock.universal), ("level", .string record.level.name),
          ("target", .string record.target), ("message", .string record.message)]) ∧
      (∃ document, Json.read (jsonLine clock record) = .ok document ∧
        (∀ rest, Reads ((jsonLine clock record).toList ++ rest) document rest) ∧
        document = .object [("level", .string record.level.name),
          ("message", .string record.message), ("target", .string record.target),
          ("timestamp", .string clock.universal)]) ∧
      ∀ (settings : Settings) filter entries,
        (journal { settings with format := .json } filter entries).splitOn '\n' =
          linesOf filter entries ++ [[]] := by
  refine ⟨⟨not_mem_jsonLine rfl, not_mem_jsonLine rfl⟩, fun members => ?_, ?_, splitOn_journal⟩
  · exact hasMembers_jsonObject_iff (fields_ne_nil clock record) (spells_fields clock record)
  · rw [jsonLine_eq]
    exact ⟨_, read_jsonObject (fields_ne_nil clock record) (spells_fields clock record),
      reads_jsonObject (fields_ne_nil clock record) (spells_fields clock record),
      ofMembers_fields clock record⟩

def plainFields (clock : Clock) (record : Record) : List (String × List Char × Json) :=
  [("timestamp", enclosed clock.universal.toList, .string clock.universal),
    ("level", enclosed record.level.name.toList, .string record.level.name),
    ("target", enclosed (record.target.toList.flatMap plainEscape), .string record.target),
    ("message", enclosed (record.message.toList.flatMap plainEscape), .string record.message)]

/-- Without a library for JSON the line carries the same members, if its time needs no escape. -/
theorem plain_record_intact {clock : Clock} (record : Record)
    (h : ∀ c ∈ clock.universal.toList, escape c = [c]) :
    ('\n' ∉ (plainJsonLine clock record).toList ∧ '\r' ∉ (plainJsonLine clock record).toList) ∧
      (∀ members, HasMembers Reads (plainJsonLine clock record).toList members ↔
        HasMembers Reads (jsonLine clock record).toList members) ∧
      Json.read (plainJsonLine clock record) = Json.read (jsonLine clock record) := by
  have hplain : ∀ member ∈ plainFields clock record, Spells member.2.1 member.2.2 := by
    simp [plainFields, spells_self h, spells_self (escape_name record.level), spells_plainEscape]
  have hne : plainFields clock record ≠ [] := List.cons_ne_nil _ _
  have hline : plainJsonLine clock record = jsonObject (texts (plainFields clock record)) := rfl
  have hvalues : values (plainFields clock record) = values (fields clock record) := rfl
  rw [hline, jsonLine_eq]
  refine ⟨⟨not_mem_jsonObject hplain rfl, not_mem_jsonObject hplain rfl⟩, fun members => ?_, ?_⟩
  · rw [hasMembers_jsonObject_iff hne hplain, hvalues,
      hasMembers_jsonObject_iff (fields_ne_nil clock record) (spells_fields clock record)]
  · rw [read_jsonObject hne hplain, hvalues,
      read_jsonObject (fields_ne_nil clock record) (spells_fields clock record)]

/-- A message that imitates the end of its record. -/
example : jsonLine ⟨"", "", "0"⟩ ⟨.info, "", "\"\x7d\n"⟩ =
    "\x7b\"timestamp\":\"0\",\"level\":\"INFO\",\"target\":\"\",\"message\":\"\\\"\x7d\\n\"\x7d" :=
  by decide

end Log

end Pastiche
