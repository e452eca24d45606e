import Pastiche.Json.Reader
import Pastiche.Proofs.Except
import Pastiche.Proofs.Json.Quote

/-!
The members of an object as they stand in a text, in their order and with every repetition, and the
items of an array. A reader keeps only the last member of each name, so from what it gives nobody
can tell whether a name was written twice. Here the members are told from the text; how a value is
read is a parameter.
-/

namespace Pastiche.Json

open Scan

variable {α : Type}

section

variable (reads : List Char → α → List Char → Prop)

/-- A member stands at the front of a text: its name, a colon and its value. -/
def MemberAt (cs : List Char) (member : String × α) (rest : List Char) : Prop :=
  ∃ name after value, skipSpace cs = '"' :: name ∧
    stringBody name = .ok (member.1.toList, after) ∧ skipSpace after = ':' :: value ∧
    reads value member.2 rest

/-- The members of an object from one of them on, and its end. -/
inductive MembersAt : List Char → List (String × α) → List Char → Prop where
  | last {cs after rest : List Char} {member : String × α} (first : MemberAt reads cs member after)
      (close : skipSpace after = '\x7d' :: rest) : MembersAt cs [member] rest
  | more {cs after next rest : List Char} {member : String × α} {members : List (String × α)}
      (first : MemberAt reads cs member after) (comma : skipSpace after = ',' :: next)
      (others : MembersAt next members rest) : MembersAt cs (member :: members) rest

/-- The text is one object with exactly these members, and has only blanks around it. -/
def HasMembers (cs : List Char) (members : List (String × α)) : Prop :=
  ∃ body rest, skipSpace cs = '\x7b' :: body ∧ skipSpace rest = [] ∧
    (skipSpace body = '\x7d' :: rest ∧ members = [] ∨ MembersAt reads body members rest)

/-- The items of an array that are left behind one of them, and its end. -/
inductive ItemsAfter : List Char → List α → List Char → Prop where
  | close {cs rest : List Char} (close : skipSpace cs = ']' :: rest) : ItemsAfter cs [] rest
  | comma {cs next after rest : List Char} {item : α} {items : List α}
      (comma : skipSpace cs = ',' :: next) (first : reads (skipSpace next) item after)
      (others : ItemsAfter after items rest) : ItemsAfter cs (item :: items) rest

/-- The items of an array after its opening bracket, and its end. -/
inductive ItemsAt : List Char → List α → List Char → Prop where
  | none {cs rest : List Char} (close : skipSpace cs = ']' :: rest) : ItemsAt cs [] rest
  | some {cs after rest : List Char} {item : α} {items : List α}
      (hopen : ∀ next, skipSpace cs ≠ ']' :: next) (first : reads (skipSpace cs) item after)
      (others : ItemsAfter reads after items rest) : ItemsAt cs (item :: items) rest

/-- The text is one array with exactly these items, and has only blanks around it. -/
def HasItems (cs : List Char) (items : List α) : Prop :=
  ∃ body rest, skipSpace cs = '[' :: body ∧ skipSpace rest = [] ∧ ItemsAt reads body items rest

end

variable {reads : List Char → α → List Char → Prop}

def Functional (reads : List Char → α → List Char → Prop) : Prop :=
  ∀ cs value value' rest rest', reads cs value rest → reads cs value' rest' →
    value = value' ∧ rest = rest'

theorem MemberAt.unique (hreads : Functional reads) {cs rest rest' : List Char}
    {member member' : String × α} (h : MemberAt reads cs member rest)
    (h' : MemberAt reads cs member' rest') : member = member' ∧ rest = rest' := by
  obtain ⟨name, after, value, hopen, hname, hcolon, hvalue⟩ := h
  obtain ⟨name', after', value', hopen', hname', hcolon', hvalue'⟩ := h'
  obtain rfl : name = name' := List.tail_eq_of_cons_eq (hopen.symm.trans hopen')
  have hfound := Except.ok.inj (hname.symm.trans hname')
  obtain rfl : after = after' := congrArg Prod.snd hfound
  obtain rfl : value = value' := List.tail_eq_of_cons_eq (hcolon.symm.trans hcolon')
  obtain ⟨hsame, hrest⟩ := hreads _ _ _ _ _ hvalue hvalue'
  exact ⟨Prod.ext (String.toList_inj.mp (congrArg Prod.fst hfound)) hsame, hrest⟩

theorem MembersAt.unique (hreads : Functional reads) {cs rest rest' : List Char}
    {members members' : List (String × α)} (h : MembersAt reads cs members rest)
    (h' : MembersAt reads cs members' rest') : members = members' ∧ rest = rest' := by
  induction h generalizing members' with
  | last first close =>
    cases h' with
    | last first' close' =>
      obtain ⟨rfl, rfl⟩ := first.unique hreads first'
      exact ⟨rfl, List.tail_eq_of_cons_eq (close.symm.trans close')⟩
    | more first' comma' =>
      obtain ⟨rfl, rfl⟩ := first.unique hreads first'
      cases close.symm.trans comma'
  | more first comma others ih =>
    cases h' with
    | last first' close' =>
      obtain ⟨rfl, rfl⟩ := first.unique hreads first'
      cases comma.symm.trans close'
    | more first' comma' others' =>
      obtain ⟨rfl, rfl⟩ := first.unique hreads first'
      obtain rfl := List.tail_eq_of_cons_eq (comma.symm.trans comma')
      obtain ⟨rfl, rfl⟩ := ih others'
      exact ⟨rfl, rfl⟩

theorem MembersAt.begins {cs rest : List Char} {members : List (String × α)}
    (h : MembersAt reads cs members rest) : ∃ name, skipSpace cs = '"' :: name := by
  cases h with
  | last first => exact ⟨_, first.choose_spec.choose_spec.choose_spec.1⟩
  | more first => exact ⟨_, first.choose_spec.choose_spec.choose_spec.1⟩

theorem HasMembers.unique (hreads : Functional reads) {cs : List Char}
    {members members' : List (String × α)} (h : HasMembers reads cs members)
    (h' : HasMembers reads cs members') : members = members' := by
  obtain ⟨body, rest, hopen, -, hmembers⟩ := h
  obtain ⟨body', rest', hopen', -, hmembers'⟩ := h'
  obtain rfl : body = body' := List.tail_eq_of_cons_eq (hopen.symm.trans hopen')
  rcases hmembers with ⟨hclose, rfl⟩ | hmembers
  · rcases hmembers' with ⟨-, rfl⟩ | hmembers'
    · rfl
    · obtain ⟨name, hname⟩ := hmembers'.begins
      cases hclose.symm.trans hname
  · rcases hmembers' with ⟨hclose', rfl⟩ | hmembers'
    · obtain ⟨name, hname⟩ := hmembers.begins
      cases hclose'.symm.trans hname
    · exact (hmembers.unique hreads hmembers').1

theorem ItemsAfter.unique (hreads : Functional reads) {cs rest rest' : List Char}
    {items items' : List α} (h : ItemsAfter reads cs items rest)
    (h' : ItemsAfter reads cs items' rest') : items = items' ∧ rest = rest' := by
  induction h generalizing items' with
  | close close =>
    cases h' with
    | close close' => exact ⟨rfl, List.tail_eq_of_cons_eq (close.symm.trans close')⟩
    | comma comma' => cases close.symm.trans comma'
  | comma comma first others ih =>
    cases h' with
    | close close' => cases comma.symm.trans close'
    | comma comma' first' others' =>
      obtain rfl := List.tail_eq_of_cons_eq (comma.symm.trans comma')
      obtain ⟨rfl, rfl⟩ := hreads _ _ _ _ _ first first'
      obtain ⟨rfl, rfl⟩ := ih others'
      exact ⟨rfl, rfl⟩

theorem HasItems.unique (hreads : Functional reads) {cs : List Char} {items items' : List α}
    (h : HasItems reads cs items) (h' : HasItems reads cs items') : items = items' := by
  obtain ⟨body, rest, hopen, -, hitems⟩ := h
  obtain ⟨body', rest', hopen', -, hitems'⟩ := h'
  obtain rfl : body = body' := List.tail_eq_of_cons_eq (hopen.symm.trans hopen')
  cases hitems with
  | none close =>
    cases hitems' with
    | none => rfl
    | some hmore => exact absurd close (hmore _)
  | some hmore first others =>
    cases hitems' with
    | none close => exact absurd close (hmore _)
    | some hmore' first' others' =>
      obtain ⟨rfl, rfl⟩ := hreads _ _ _ _ _ first first'
      obtain ⟨rfl, -⟩ := others.unique hreads others'
      rfl

theorem HasMembers.not_hasItems {β : Type} {reads' : List Char → β → List Char → Prop}
    {cs : List Char} {members : List (String × α)} {items : List β} (h : HasMembers reads cs members) :
    ¬ HasItems reads' cs items := by
  obtain ⟨body, rest, hopen, -⟩ := h
  rintro ⟨body', rest', hopen', -⟩
  cases hopen.symm.trans hopen'

/-- An object goes on behind a value with a comma or ends there. -/
def EndsMember (rest : List Char) : Prop :=
  ∃ c more, rest = c :: more ∧ (c = ',' ∨ c = '\x7d')

theorem length_le_separated (texts : List (List Char)) :
    texts.length ≤ (separated texts).length + 1 := by
  induction texts with
  | nil => exact Nat.zero_le _
  | cons text texts ih =>
    by_cases htexts : texts = []
    · subst htexts
      exact Nat.le_add_left _ _
    · rw [separated, List.intercalate_cons_of_ne_nil htexts, ← separated]
      simp only [List.length_cons, List.length_append, List.length_nil]
      omega

theorem memberAt_text {name : String} {text rest : List Char} {value : α}
    (h : reads (text ++ rest) value rest) :
    MemberAt reads (quote name.toList ++ ':' :: text ++ rest) (name, value) rest := by
  refine ⟨_, ':' :: (text ++ rest), _, ?_, stringBody_escaped name.toList _, ?_, h⟩
  · rw [List.append_assoc, quote_append]
    rfl
  · rfl

theorem membersAt_texts {written : List (String × List Char × α)} (hne : written ≠ [])
    (h : ∀ member ∈ written, ∀ rest, EndsMember rest → reads (member.2.1 ++ rest) member.2.2 rest)
    (rest : List Char) :
    MembersAt reads
      (separated (written.map fun (name, text, _) => quote name.toList ++ ':' :: text) ++
        '\x7d' :: rest)
      (written.map fun (name, _, value) => (name, value)) rest := by
  induction written with
  | nil => exact absurd rfl hne
  | cons first written ih =>
    obtain ⟨name, text, value⟩ := first
    have hfirst (next : List Char) (hnext : EndsMember next) :
        MemberAt reads (quote name.toList ++ ':' :: text ++ next) (name, value) next :=
      memberAt_text (h _ List.mem_cons_self next hnext)
    by_cases hwritten : written = []
    · subst hwritten
      rw [List.map_singleton, separated, List.intercalate_singleton]
      exact .last (hfirst _ ⟨_, _, rfl, .inr rfl⟩) rfl
    · have hothers := ih hwritten fun member hmember => h member (List.mem_cons_of_mem _ hmember)
      rw [List.map_cons, separated, List.intercalate_cons_of_ne_nil (by simpa using hwritten),
        List.append_assoc, List.append_assoc]
      exact .more (hfirst _ ⟨_, _, rfl, .inl rfl⟩) rfl hothers

namespace Reader

/-- A value at the front of a text, with what follows it. -/
def Reads (cs : List Char) (document : Json) (rest : List Char) : Prop :=
  value (budget cs) maxNesting cs = .ok (document, rest)

theorem reads_functional : Functional Reads := by
  intro cs document document' rest rest' h h'
  have hsame := Except.ok.inj (h.symm.trans h')
  exact ⟨congrArg Prod.fst hsame, congrArg Prod.snd hsame⟩

/-- A value without parts: one step is enough to read it. -/
def ReadsAtOnce (cs : List Char) (document : Json) (rest : List Char) : Prop :=
  ∀ budget depth, value (budget + 1) depth cs = .ok (document, rest)

theorem value_string (budget depth : Nat) (cs : List Char) :
    value (budget + 1) depth ('"' :: cs) = (do
      let (text, rest) ← stringBody cs
      .ok (.string (String.ofList text), rest)) := rfl

theorem readsAtOnce_enclosed {text rest : List Char} {content : String}
    (h : stringBody (text ++ '"' :: rest) = .ok (content.toList, rest)) :
    ReadsAtOnce ('"' :: text ++ ['"'] ++ rest) (.string content) rest := by
  intro budget depth
  simp [value_string, h]

/-- The object with the members that stand in the text, one put after another. -/
def added (before written : List (String × Json)) : List (String × Json) :=
  written.foldl (fun entries (name, content) => Dictionary.insert name content entries) before

theorem members_step {cs after : List Char} {member : String × Json}
    (h : MemberAt ReadsAtOnce cs member after) (budget depth : Nat)
    (before : List (String × Json)) :
    members (budget + 2) depth before cs =
      match skipSpace after with
      | [] => .error .truncated
      | '\x7d' :: rest => .ok (added before [member], rest)
      | ',' :: rest => members (budget + 1) depth (added before [member]) rest
      | _ => .error .malformed := by
  obtain ⟨name, colon, content, hopen, hname, hcolon, hcontent⟩ := h
  rw [members, hopen]
  simp only [hname, hcolon, ok_bind, hcontent budget depth, String.ofList_toList]
  rfl

theorem members_eq {cs rest : List Char} {written : List (String × Json)}
    (h : MembersAt ReadsAtOnce cs written rest) (spare depth : Nat)
    (before : List (String × Json)) :
    members (written.length + spare + 1) depth before cs = .ok (added before written, rest) := by
  induction h generalizing before with
  | last first close =>
    rw [List.length_singleton, Nat.add_comm 1, members_step first, close]
    rfl
  | more first comma others ih =>
    rw [List.length_cons, Nat.add_right_comm _ 1, members_step first, comma]
    exact ih _

theorem value_brace (budget depth : Nat) (cs : List Char) :
    value (budget + 1) (depth + 1) ('\x7b' :: cs) =
      match skipSpace cs with
      | '\x7d' :: rest => .ok (.object [], rest)
      | _ => (do
        let (found, rest) ← members budget depth [] cs
        .ok (.object found, rest)) := rfl

theorem value_object {cs rest : List Char} {written : List (String × Json)}
    (h : MembersAt ReadsAtOnce cs written rest) {budget : Nat}
    (hbudget : written.length + 1 < budget) (depth : Nat) :
    value budget (depth + 1) ('\x7b' :: cs) = .ok (.ofMembers written, rest) := by
  obtain ⟨name, hname⟩ := h.begins
  obtain ⟨spare, rfl⟩ := Nat.exists_eq_add_of_lt hbudget
  rw [value_brace, hname, Nat.add_right_comm, members_eq h]
  rfl

end Reader

end Pastiche.Json
