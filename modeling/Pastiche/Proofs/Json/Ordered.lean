import Pastiche.Json.Reader
import Pastiche.Proofs.Except

/-!
Objects whose members are in the order of their names, each name once. Whatever is read from a text
has only such objects in it: of two members with one name the later takes the place of the earlier.
-/

namespace Pastiche

namespace Dictionary

variable {α : Type}

theorem find?_eq_none_iff {key : String} {entries : List (String × α)} :
    find? key entries = none ↔ key ∉ keys entries := by
  induction entries with
  | nil => simp [keys]
  | cons entry rest ih =>
    obtain ⟨name, value⟩ := entry
    by_cases hname : key = name
    · simp [find?, keys, hname]
    · simp only [find?, if_neg hname, ih]
      simp [keys, hname]

theorem mem_keys_insert {key other : String} {value : α} {entries : List (String × α)}
    (h : other ∈ keys (insert key value entries)) : other = key ∨ other ∈ keys entries := by
  obtain ⟨entry, hentry, rfl⟩ := List.mem_map.mp h
  rcases mem_insert hentry with rfl | hold
  · exact .inl rfl
  · exact .inr (List.mem_map_of_mem hold)

/-- Are the keys in their order, each once? -/
def Increasing (entries : List (String × α)) : Prop := (keys entries).Pairwise (· < ·)

instance (entries : List (String × α)) : Decidable (Increasing entries) :=
  inferInstanceAs (Decidable ((keys entries).Pairwise (· < ·)))

theorem Increasing.nil : Increasing ([] : List (String × α)) := List.Pairwise.nil

theorem Increasing.nodup {entries : List (String × α)} (h : Increasing entries) :
    (keys entries).Nodup := by
  refine List.Pairwise.imp ?_ h
  rintro key other hlt rfl
  exact String.lt_irrefl key hlt

theorem Increasing.insert {entries : List (String × α)} (h : Increasing entries) (key : String)
    (value : α) : Increasing (insert key value entries) := by
  induction entries with
  | nil => exact List.pairwise_singleton _ _
  | cons entry rest ih =>
    obtain ⟨name, old⟩ := entry
    obtain ⟨hname, hrest⟩ := List.pairwise_cons.mp h
    unfold Dictionary.insert
    split
    · -- the new key comes before all others
      rename_i hlt
      refine List.pairwise_cons.mpr ⟨fun other hother => ?_, h⟩
      rcases List.mem_cons.mp hother with rfl | hmore
      · exact hlt
      · exact String.lt_trans hlt (hname other hmore)
    · rename_i hge
      split
      · rename_i heq
        subst heq
        exact h
      · -- it comes somewhere behind the first one
        rename_i hne
        have hlt : name < key := Decidable.byContradiction fun hle =>
          hne (String.le_antisymm (String.not_lt.mp hle) (String.not_lt.mp hge))
        refine List.pairwise_cons.mpr ⟨fun other hother => ?_, ih hrest⟩
        rcases mem_keys_insert hother with rfl | hold
        · exact hlt
        · exact hname other hold

end Dictionary

namespace Json

mutual

def Ordered : Json → Prop
  | .array items => ItemsOrdered items
  | .object members => Dictionary.Increasing members ∧ MembersOrdered members
  | .null => True
  | .bool _ => True
  | .number _ => True
  | .string _ => True

def ItemsOrdered : List Json → Prop
  | [] => True
  | item :: rest => item.Ordered ∧ ItemsOrdered rest

def MembersOrdered : List (String × Json) → Prop
  | [] => True
  | (_, value) :: rest => value.Ordered ∧ MembersOrdered rest

end

theorem membersOrdered_iff {members : List (String × Json)} :
    MembersOrdered members ↔ ∀ member ∈ members, member.2.Ordered := by
  induction members with
  | nil => simp [MembersOrdered]
  | cons member rest ih => simp [MembersOrdered, ih]

theorem MembersOrdered.insert {members : List (String × Json)} (h : MembersOrdered members)
    {value : Json} (hvalue : value.Ordered) (name : String) :
    MembersOrdered (Dictionary.insert name value members) := by
  refine membersOrdered_iff.mpr fun member hmember => ?_
  rcases Dictionary.mem_insert hmember with rfl | hold
  · exact hvalue
  · exact membersOrdered_iff.mp h member hold

namespace Reader

open Scan

mutual

theorem value_ordered {budget depth : Nat} {cs rest : List Char} {document : Json}
    (h : value budget depth cs = .ok (document, rest)) : document.Ordered := by
  cases budget with
  | zero => cases h
  | succ budget =>
    unfold value at h
    split at h
    · cases h
    · obtain ⟨after, -, heq⟩ := bind_eq_ok h
      cases heq
      trivial
    · obtain ⟨after, -, heq⟩ := bind_eq_ok h
      cases heq
      trivial
    · obtain ⟨after, -, heq⟩ := bind_eq_ok h
      cases heq
      trivial
    · obtain ⟨⟨text, after⟩, -, heq⟩ := bind_eq_ok h
      cases heq
      trivial
    · cases depth with
      | zero => cases h
      | succ depth =>
        dsimp only at h
        split at h
        · cases h
          trivial
        · obtain ⟨⟨found, after⟩, hfound, heq⟩ := bind_eq_ok h
          cases heq
          exact items_ordered hfound
    · cases depth with
      | zero => cases h
      | succ depth =>
        dsimp only at h
        split at h
        · cases h
          exact ⟨.nil, trivial⟩
        · obtain ⟨⟨found, after⟩, hfound, heq⟩ := bind_eq_ok h
          cases heq
          exact members_ordered .nil trivial hfound
    · split at h
      · obtain ⟨⟨number, after⟩, -, heq⟩ := bind_eq_ok h
        cases heq
        trivial
      · cases h

theorem items_ordered {budget depth : Nat} {cs rest : List Char} {found : List Json}
    (h : items budget depth cs = .ok (found, rest)) : ItemsOrdered found := by
  cases budget with
  | zero => cases h
  | succ budget =>
    obtain ⟨⟨item, after⟩, hitem, h⟩ := bind_eq_ok h
    have hfirst := value_ordered hitem
    dsimp only at h
    split at h
    · cases h
    · cases h
      exact ⟨hfirst, trivial⟩
    · obtain ⟨⟨more, beyond⟩, hmore, heq⟩ := bind_eq_ok h
      cases heq
      exact ⟨hfirst, items_ordered hmore⟩
    · cases h

theorem members_ordered {budget depth : Nat} {before found : List (String × Json)}
    {cs rest : List Char} (hincreasing : Dictionary.Increasing before)
    (hbefore : MembersOrdered before) (h : members budget depth before cs = .ok (found, rest)) :
    (Json.object found).Ordered := by
  cases budget with
  | zero => cases h
  | succ budget =>
    unfold members at h
    split at h
    · cases h
    · obtain ⟨⟨name, after⟩, -, h⟩ := bind_eq_ok h
      dsimp only at h
      split at h
      · cases h
      · obtain ⟨⟨content, beyond⟩, hcontent, h⟩ := bind_eq_ok h
        have hhere := hbefore.insert (value_ordered hcontent) (String.ofList name)
        have hkeys := hincreasing.insert (String.ofList name) content
        dsimp only at h
        split at h
        · cases h
        · cases h
          exact ⟨hkeys, hhere⟩
        · exact members_ordered hkeys hhere h
        · cases h
      · cases h
    · cases h

end

end Reader

theorem ordered_of_read {text : String} {document : Json} (h : read text = .ok document) :
    document.Ordered := by
  unfold read Reader.finish at h
  split at h
  · rename_i found rest hfound
    split at h
    · cases h
      exact Reader.value_ordered hfound
    · cases h
  · cases h

end Json

end Pastiche
