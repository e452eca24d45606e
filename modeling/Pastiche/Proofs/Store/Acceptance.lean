import Pastiche.Proofs.Store.Reach
import Pastiche.Store.Filling

/-!
Which documents a store accepts. It takes the objects all of whose nodes have a place in a tree, and
of any other document it reports the first node that has none and keeps what it had.
-/

namespace Pastiche

namespace Json

def IsObject : Json → Prop
  | .object _ => True
  | _ => False

def IsScalar : Json → Prop
  | .string _ => True
  | .number _ => True
  | .bool _ => True
  | _ => False

/-- Has the value a place in a tree, whatever the members in it are? -/
def Fits : Json → Prop
  | .object _ => True
  | .array items => ∀ item ∈ items, item.IsScalar
  | value => value.IsScalar

/-- What is wrong with a value that has no place in a tree. -/
inductive HasDefect : Json → Defect → Prop where
  | null : HasDefect .null .nullValue
  | element {items : List Json} {index : Nat} {item : Json} (hitem : items[index]? = some item)
      (hbad : ¬ item.IsScalar)
      (hfirst : ∀ earlier other, earlier < index → items[earlier]? = some other → other.IsScalar) :
      HasDefect (.array items) (.badElement index)

/-- The first node with a defect, depth first and with the members in the order of their names,
stands behind these names. -/
structure FirstDefect (document : Json) (names : List String) (defect : Defect) : Prop where
  defective : ∃ node, document.member? names = some node ∧ node.HasDefect defect
  first : ∀ other node, document.member? other = some node → ¬ node.Fits →
    other = names ∨ List.Lex (· < ·) names other

theorem HasDefect.not_fits {value : Json} {defect : Defect} (h : value.HasDefect defect) :
    ¬ value.Fits := by
  cases h with
  | null => exact id
  | element hitem hbad hfirst => exact fun hall => hbad (hall _ (List.mem_of_getElem? hitem))

theorem HasDefect.unique {value : Json} {defect other : Defect} (h : value.HasDefect defect)
    (hother : value.HasDefect other) : defect = other := by
  cases h with
  | null => cases hother; rfl
  | element hitem hbad hfirst =>
    cases hother with
    | element hitem' hbad' hfirst' =>
      rename_i index _ index' _
      rcases Nat.lt_trichotomy index index' with hlt | rfl | hlt
      · exact absurd (hfirst' _ _ hlt hitem) hbad
      · rfl
      · exact absurd (hfirst _ _ hlt hitem') hbad'

theorem FirstDefect.not_all_fit {document : Json} {names : List String} {defect : Defect}
    (h : document.FirstDefect names defect) :
    ¬ ∀ other node, document.member? other = some node → node.Fits := by
  obtain ⟨⟨node, hnode, hdefect⟩, -⟩ := h
  exact fun hfits => hdefect.not_fits (hfits names node hnode)

theorem FirstDefect.unique {document : Json} {names others : List String} {defect other : Defect}
    (h : document.FirstDefect names defect) (hother : document.FirstDefect others other) :
    names = others ∧ defect = other := by
  obtain ⟨⟨node, hnode, hdefect⟩, hfirst⟩ := h
  obtain ⟨⟨node', hnode', hdefect'⟩, hfirst'⟩ := hother
  have hnames : names = others := by
    rcases hfirst _ _ hnode' hdefect'.not_fits with heq | hlt
    · exact heq.symm
    · rcases hfirst' _ _ hnode hdefect.not_fits with heq | hgt
      · exact heq
      · exact absurd hgt (List.lex_asymm String.lt_asymm hlt)
  subst hnames
  rw [hnode] at hnode'
  cases hnode'
  exact ⟨rfl, hdefect.unique hdefect'⟩

theorem FirstDefect.here {value : Json} {defect : Defect} (hdefect : value.HasDefect defect)
    (hnone : ∀ name names, value.member? (name :: names) = none) : value.FirstDefect [] defect := by
  refine ⟨⟨value, rfl, hdefect⟩, fun other found hfound _ => ?_⟩
  cases other with
  | nil => exact .inl rfl
  | cons name names =>
    rw [hnone] at hfound
    cases hfound

section Object

variable {name first : String} {names : List String} {value node : Json}
  {members : List (String × Json)}

theorem member?_object_cons_self :
    (object ((name, value) :: members)).member? (name :: names) = value.member? names := by
  rw [member?, Dictionary.find?, if_pos rfl, Option.bind_some]

theorem member?_object_cons_of_ne (hne : first ≠ name) :
    (object ((name, value) :: members)).member? (first :: names) =
      (object members).member? (first :: names) := by
  rw [member?, Dictionary.find?, if_neg hne, member?]

theorem mem_keys_of_member? (h : (object members).member? (first :: names) = some node) :
    first ∈ Dictionary.keys members := by
  refine Decidable.byContradiction fun hnot => ?_
  rw [member?, Dictionary.find?_eq_none_iff.mpr hnot] at h
  cases h

theorem FirstDefect.head {defect : Defect} (hkeys : Dictionary.Increasing ((name, value) :: members))
    (h : value.FirstDefect names defect) :
    (object ((name, value) :: members)).FirstDefect (name :: names) defect := by
  obtain ⟨⟨bad, hbad, hdefect⟩, hfirst⟩ := h
  refine ⟨⟨bad, by rw [member?_object_cons_self, hbad], hdefect⟩, fun other found hfound hunfit => ?_⟩
  cases other with
  | nil =>
    cases hfound
    exact absurd trivial hunfit
  | cons first other =>
    by_cases hname : first = name
    · subst hname
      rw [member?_object_cons_self] at hfound
      rcases hfirst other found hfound hunfit with rfl | hlt
      · exact .inl rfl
      · exact .inr (.cons hlt)
    · rw [member?_object_cons_of_ne hname] at hfound
      exact .inr (.rel ((List.pairwise_cons.mp hkeys).1 first (mem_keys_of_member? hfound)))

theorem FirstDefect.tail {defect : Defect} (hkeys : Dictionary.Increasing ((name, value) :: members))
    (hfits : ∀ other found, value.member? other = some found → found.Fits)
    (h : (object members).FirstDefect names defect) :
    (object ((name, value) :: members)).FirstDefect names defect := by
  obtain ⟨⟨bad, hbad, hdefect⟩, hfirst⟩ := h
  refine ⟨⟨bad, ?_, hdefect⟩, fun other found hfound hunfit => ?_⟩
  · cases names with
    | nil =>
      cases hbad
      exact absurd trivial hdefect.not_fits
    | cons first names =>
      have hlt := (List.pairwise_cons.mp hkeys).1 first (mem_keys_of_member? hbad)
      rw [member?_object_cons_of_ne (String.ne_of_lt hlt).symm, hbad]
  · cases other with
    | nil =>
      cases hfound
      exact absurd trivial hunfit
    | cons first other =>
      by_cases hname : first = name
      · subst hname
        rw [member?_object_cons_self] at hfound
        exact absurd (hfits other found hfound) hunfit
      · rw [member?_object_cons_of_ne hname] at hfound
        exact hfirst _ _ hfound hunfit

end Object

end Json

namespace Node

open Json

theorem isScalar_of_scalarText? {value : Json} {text : String} (h : scalarText? value = some text) :
    value.IsScalar := by
  cases value with
  | null => cases h
  | array items => cases h
  | object members => cases h
  | bool flag => trivial
  | number number => trivial
  | string content => trivial

theorem not_isScalar_of_scalarText? {value : Json} (h : scalarText? value = none) :
    ¬ value.IsScalar := by
  cases value with
  | null => exact id
  | array items => exact id
  | object members => exact id
  | bool flag => cases h
  | number number => cases h
  | string content => cases h

theorem isScalar_of_elements {path : String} {index : Nat} {items : List Json} {texts : List String}
    (h : elements path index items = .ok texts) : ∀ item ∈ items, item.IsScalar := by
  induction items generalizing index texts with
  | nil => exact nofun
  | cons first rest ih =>
    unfold elements at h
    cases hfirst : scalarText? first with
    | none =>
      rw [hfirst] at h
      cases h
    | some text =>
      rw [hfirst] at h
      obtain ⟨more, hmore, -⟩ := bind_eq_ok h
      exact List.forall_mem_cons.mpr ⟨isScalar_of_scalarText? hfirst, ih hmore⟩

theorem elements_eq_error {path place : String} {start : Nat} {items : List Json} {defect : Defect}
    (h : elements path start items = .error (place, defect)) :
    ∃ index item, place = path ∧ defect = .badElement (start + index) ∧
      items[index]? = some item ∧ ¬ item.IsScalar ∧
      ∀ earlier other, earlier < index → items[earlier]? = some other → other.IsScalar := by
  induction items generalizing start with
  | nil => cases h
  | cons first rest ih =>
    unfold elements at h
    cases hfirst : scalarText? first with
    | none =>
      rw [hfirst] at h
      cases h
      exact ⟨0, first, rfl, rfl, rfl, not_isScalar_of_scalarText? hfirst,
        fun earlier other hlt => absurd hlt (Nat.not_lt_zero earlier)⟩
    | some text =>
      rw [hfirst] at h
      rcases bind_eq_error h with hrest | ⟨more, -, heq⟩
      · obtain ⟨index, item, hplace, hdefect, hitem, hbad, hearlier⟩ := ih hrest
        refine ⟨index + 1, item, hplace, ?_, by rwa [List.getElem?_cons_succ], hbad, ?_⟩
        · rw [hdefect, Nat.add_right_comm, Nat.add_assoc]
        · intro earlier other hlt hother
          cases earlier with
          | zero =>
            cases hother
            exact isScalar_of_scalarText? hfirst
          | succ earlier =>
            rw [List.getElem?_cons_succ] at hother
            exact hearlier earlier other (Nat.lt_of_succ_lt_succ hlt) hother
      · cases heq

theorem fits_of_ofJson {path : String} {value : Json} {node : Node}
    (h : ofJson path value = .ok node) : value.Fits := by
  cases value with
  | null => cases h
  | object members => trivial
  | bool flag => trivial
  | number number => trivial
  | string text => trivial
  | array items =>
    obtain ⟨texts, htexts, -⟩ := bind_eq_ok h
    exact isScalar_of_elements htexts

theorem fits_of_member? {path : String} {document : Json} {tree : Node}
    (h : ofJson path document = .ok tree) (names : List String) (value : Json)
    (hvalue : document.member? names = some value) : value.Fits := by
  obtain ⟨place, node, hnode, -⟩ := get?_ofJson h hvalue
  exact fits_of_ofJson hnode

mutual

theorem ofJson_eq_error {path place : String} {document : Json} {defect : Defect}
    (hordered : document.Ordered) (h : ofJson path document = .error (place, defect)) :
    ∃ names, document.FirstDefect names defect ∧ place = names.foldl joinPath path := by
  cases document with
  | null =>
    cases h
    exact ⟨[], FirstDefect.here .null fun _ _ => rfl, rfl⟩
  | bool flag => cases h
  | number number => cases h
  | string text => cases h
  | array items =>
    rcases bind_eq_error h with hitems | ⟨texts, -, heq⟩
    · obtain ⟨index, item, rfl, rfl, hitem, hbad, hearlier⟩ := elements_eq_error hitems
      rw [Nat.zero_add]
      exact ⟨[], FirstDefect.here (.element hitem hbad hearlier) fun _ _ => rfl, rfl⟩
    · cases heq
  | object members =>
    rcases bind_eq_error h with hmembers | ⟨children, -, heq⟩
    · exact ofMembers_eq_error hordered.1 hordered.2 hmembers
    · cases heq

theorem ofMembers_eq_error {path place : String} {members : List (String × Json)} {defect : Defect}
    (hkeys : Dictionary.Increasing members) (hordered : MembersOrdered members)
    (h : ofMembers path members = .error (place, defect)) :
    ∃ names, (object members).FirstDefect names defect ∧ place = names.foldl joinPath path := by
  cases members with
  | nil => cases h
  | cons member rest =>
    obtain ⟨name, value⟩ := member
    rcases bind_eq_error h with hvalue | ⟨child, hchild, h⟩
    · obtain ⟨names, hfirst, hplace⟩ := ofJson_eq_error hordered.1 hvalue
      exact ⟨name :: names, hfirst.head hkeys, hplace⟩
    · rcases bind_eq_error h with hrest | ⟨children, -, heq⟩
      · obtain ⟨names, hfirst, hplace⟩ :=
          ofMembers_eq_error (List.pairwise_cons.mp hkeys).2 hordered.2 hrest
        exact ⟨names, hfirst.tail hkeys (fits_of_member? hchild), hplace⟩
      · cases heq

end

end Node

namespace Store

theorem insertValue_of_not_object {document : Json} (h : ¬ document.IsObject) (store : Store)
    (locale : Locale) : store.insertValue locale document = .error (locale.tag, .notAnObject) := by
  cases document with
  | object members => exact absurd trivial h
  | null => rfl
  | bool flag => rfl
  | number number => rfl
  | string text => rfl
  | array items => rfl

theorem insertValue_of_object {document : Json} (hobject : document.IsObject)
    (hordered : document.Ordered) (store : Store) (locale : Locale) :
    ((∃ after, store.insertValue locale document = .ok after) ∧
      ∀ names node, document.member? names = some node → node.Fits) ∨
    ∃ names defect, document.FirstDefect names defect ∧
      store.insertValue locale document = .error (names.foldl Node.joinPath "", defect) := by
  cases document with
  | null => exact hobject.elim
  | bool flag => exact hobject.elim
  | number number => exact hobject.elim
  | string text => exact hobject.elim
  | array items => exact hobject.elim
  | object members =>
    cases hmembers : Node.ofMembers "" members with
    | ok children =>
      have htree : Node.ofJson "" (.object members) = .ok (.map children) := by
        rw [Node.ofJson, hmembers, ok_bind]
      exact .inl ⟨⟨_, by rw [insertValue, hmembers, ok_bind]⟩, Node.fits_of_member? htree⟩
    | error report =>
      obtain ⟨place, defect⟩ := report
      obtain ⟨names, hfirst, rfl⟩ := Node.ofMembers_eq_error hordered.1 hordered.2 hmembers
      exact .inr ⟨names, defect, hfirst, by rw [insertValue, hmembers]; rfl⟩

/-- A document is accepted if and only if it is an object all of whose nodes have a place in a tree.
Any other one is reported, an object by its first defect with the place of it, and the store stays
what it was. -/
theorem addDocument_outcome {document : Json} (hordered : document.Ordered) (store : Store)
    (locale : Locale) :
    ((∃ after, addDocument locale document store = (.ok (), after)) ↔
      document.IsObject ∧ ∀ names node, document.member? names = some node → node.Fits) ∧
    ∀ fault after, addDocument locale document store = (.error fault, after) ↔
      after = store ∧
        (¬ document.IsObject ∧ fault = .malformedData locale.tag .notAnObject ∨
          document.IsObject ∧ ∃ names defect, document.FirstDefect names defect ∧
            fault = .malformedData (names.foldl Node.joinPath "") defect) := by
  by_cases hobject : document.IsObject
  · rcases insertValue_of_object hobject hordered store locale with
      ⟨⟨filled, hfilled⟩, hfits⟩ | ⟨names, defect, hfirst, herror⟩
    · rw [addDocument_of_ok hfilled]
      refine ⟨⟨fun _ => ⟨hobject, hfits⟩, fun _ => ⟨filled, rfl⟩⟩, fun fault after => ⟨nofun, ?_⟩⟩
      rintro ⟨-, ⟨hnot, -⟩ | ⟨-, names, defect, hfirst, -⟩⟩
      · exact absurd hobject hnot
      · exact absurd hfits hfirst.not_all_fit
    · rw [addDocument_of_error herror]
      refine ⟨⟨nofun, fun h => absurd h.2 hfirst.not_all_fit⟩, fun fault after => ⟨fun h => ?_, ?_⟩⟩
      · cases h
        exact ⟨rfl, .inr ⟨hobject, names, defect, hfirst, rfl⟩⟩
      · rintro ⟨rfl, ⟨hnot, -⟩ | ⟨-, others, other, hother, rfl⟩⟩
        · exact absurd hobject hnot
        · obtain ⟨rfl, rfl⟩ := hfirst.unique hother
          rfl
  · rw [addDocument_of_error (insertValue_of_not_object hobject store locale)]
    refine ⟨⟨nofun, fun h => absurd h.1 hobject⟩, fun fault after => ⟨fun h => ?_, ?_⟩⟩
    · cases h
      exact ⟨rfl, .inl ⟨hobject, rfl⟩⟩
    · rintro ⟨rfl, ⟨-, rfl⟩ | ⟨hobject', -⟩⟩
      · rfl
      · exact absurd hobject' hobject

/-- A document with two defects, a list in which an object stands and a null behind it. -/
def forms : Json :=
  .object [("code", .number (.natural 7)),
    ("title", .object [("long", .array [.string "Doctor", .object [("short", .string "Dr")]]),
      ("none", .null)])]

theorem addDocument_outcome_forms :
    forms.Ordered ∧ forms.FirstDefect ["title", "long"] (.badElement 1) ∧
      addDocument .en forms salutations =
        (.error (.malformedData "title.long" (.badElement 1)), salutations) := by
  have hordered : forms.Ordered :=
    ⟨by decide, trivial, ⟨by decide, ⟨trivial, ⟨by decide, trivial, trivial⟩, trivial⟩, trivial,
      trivial⟩, trivial⟩
  have hdefect : (Json.array [.string "Doctor", .object [("short", .string "Dr")]]).HasDefect
      (.badElement 1) := by
    refine .element rfl id fun earlier other hlt hother => ?_
    obtain rfl : earlier = 0 := Nat.lt_one_iff.mp hlt
    cases hother
    trivial
  have hcode : ∀ other found,
      (Json.number (.natural 7)).member? other = some found → found.Fits := by
    intro other found hfound
    cases other with
    | nil => cases hfound; trivial
    | cons name names => cases hfound
  have hlong := Json.FirstDefect.here hdefect fun _ _ => rfl
  have hfirst : forms.FirstDefect ["title", "long"] (.badElement 1) :=
    ((hlong.head hordered.2.2.1.1).head (List.pairwise_cons.mp hordered.1).2).tail hordered.1 hcode
  have hreport := (addDocument_outcome hordered salutations .en).2
  exact ⟨hordered, hfirst,
    (hreport _ _).mpr ⟨rfl, .inr ⟨trivial, ["title", "long"], .badElement 1, hfirst, rfl⟩⟩⟩

end Store

end Pastiche
