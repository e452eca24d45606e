import Pastiche.Proofs.Pattern.Delimiters

/-!
The numbers that a pattern names. A scan that only tells classes and escapes apart finds the braces
that open repetitions, and in a pattern that is read no number behind one of them is beyond its
limit: `maxBound`, for a second number with so much more as a repetition without one is granted.
-/

namespace Pastiche.Pattern

open Grammar

/-- Where the scan of a pattern stands. -/
inductive Place where
  | outside
  | escape
  /-- Behind the bracket that opens a class. -/
  | opened
  /-- Behind the caret of a class. -/
  | negated
  | inside
  /-- Behind a backslash in a class. -/
  | insideEscape
deriving DecidableEq

/-- The place after one character more. A bracket that comes first in a class does not close it. -/
def Place.after : Place → Char → Place
  | .outside, c => if c = '\\' then .escape else if c = '[' then .opened else .outside
  | .escape, _ => .outside
  | .opened, c => if c = '\\' then .insideEscape else if c = '^' then .negated else .inside
  | .negated, c => if c = '\\' then .insideEscape else .inside
  | .inside, c => if c = '\\' then .insideEscape else if c = ']' then .outside else .inside
  | .insideEscape, _ => .inside

/-- The texts behind the braces that open repetitions. -/
def bracesIn : Place → List Char → List (List Char)
  | _, [] => []
  | place, c :: rest =>
    if place = .outside ∧ c = '\x7b' then rest :: bracesIn .outside rest
    else bracesIn (place.after c) rest

def numberAt? (cs : List Char) : Option Nat :=
  let digits := cs.takeWhile Char.isDigit
  if digits.isEmpty then none else some (Decimal.ofDigits digits)

def secondNumber? (behind : List Char) : Option Nat :=
  match behind.dropWhile Char.isDigit with
  | ',' :: rest => numberAt? rest
  | _ => none

/-- The numbers of a repetition are within their limits, and there is a first one. -/
structure Limited (maxRepeat : Nat) (behind : List Char) : Prop where
  first : ∃ least, numberAt? behind = some least ∧ least ≤ maxBound
  second : ∀ most, secondNumber? behind = some most → most ≤ min (maxBound + maxRepeat) countMax

section Number

variable {digits rest : List Char} {c : Char} {n : Nat}

theorem takeWhile_number (h : Number digits n) (hc : c.isDigit = false) (rest : List Char) :
    (digits ++ c :: rest).takeWhile Char.isDigit = digits := by
  rw [List.takeWhile_append_of_pos h.2.1]
  simp [hc]

theorem numberAt?_number (h : Number digits n) (hc : c.isDigit = false) (rest : List Char) :
    numberAt? (digits ++ c :: rest) = some n := by
  have hempty : digits.isEmpty = false := by simpa using h.1
  simp only [numberAt?, takeWhile_number h hc, hempty, h.2.2]
  rfl

theorem secondNumber?_number (h : Number digits n) (hc : c.isDigit = false) (rest : List Char) :
    secondNumber? (digits ++ c :: rest) = if c = ',' then numberAt? rest else none := by
  have hdrop : (digits ++ c :: rest).dropWhile Char.isDigit = c :: rest := by
    rw [List.dropWhile_append_of_pos h.2.1]
    simp [hc]
  by_cases hcomma : c = ','
  · subst hcomma
    rw [if_pos rfl, secondNumber?, hdrop]
    rfl
  · rw [if_neg hcomma, secondNumber?, hdrop]
    split
    · rename_i heq
      exact absurd (List.cons.inj heq).1 hcomma
    · rfl

end Number

/-- A text that leads the scan from one place to another and opens no repetition. -/
def Leads (start : Place) (cs : List Char) (stop : Place) : Prop :=
  ∀ rest, bracesIn start (cs ++ rest) = bracesIn stop rest

namespace Leads

variable {start middle stop : Place} {cs more : List Char} {c : Char}

theorem nil (place : Place) : Leads place [] place := fun _ => rfl

theorem append (h : Leads start cs middle) (hmore : Leads middle more stop) :
    Leads start (cs ++ more) stop := by
  intro rest
  rw [List.append_assoc, h, hmore]

theorem char (h : start = .outside → c ≠ '\x7b') : Leads start [c] (start.after c) := by
  intro rest
  have hbrace : ¬ (start = .outside ∧ c = '\x7b') := fun hboth => h hboth.1 hboth.2
  rw [List.singleton_append, bracesIn, if_neg hbrace]

theorem plain (h : c ∉ ['\\', '[', '\x7b']) : Leads .outside [c] .outside := by
  simp only [List.mem_cons, List.not_mem_nil, or_false, not_or] at h
  have hafter : Place.after .outside c = .outside := by simp [Place.after, h]
  have hone : Leads .outside [c] (Place.after .outside c) := char fun _ => h.2.2
  rwa [hafter] at hone

theorem plain_all (h : ∀ c ∈ cs, c ∉ ['\\', '[', '\x7b']) : Leads .outside cs .outside := by
  induction cs with
  | nil => exact .nil .outside
  | cons c cs ih =>
    have hrest := ih fun d hd => h d (List.mem_cons_of_mem _ hd)
    exact (plain (h c List.mem_cons_self)).append hrest

theorem escaped (c : Char) : Leads .outside ['\\', c] .outside := by
  have hbackslash : Leads .outside ['\\'] .escape := char fun _ => by decide
  have hskipped : Leads .escape [c] .outside := char nofun
  exact hbackslash.append hskipped

end Leads

/-- A place in a class at which a member may stand: the first one at the beginning, any other where
members were listed before it. -/
def Place.Admits (first : Bool) (cs : List Char) (place : Place) : Prop :=
  if first then place = .negated ∨ place = .opened ∧ cs.head? ≠ some '^' else place = .inside

theorem Grammar.Member.leads {place : Place} {first : Bool} {part rest : List Char} {e : Escape}
    (h : Member part e) (hplace : place.Admits first (part ++ rest))
    (hfirst : part = [']'] → first = true) : Leads place part .inside := by
  have hin : place ≠ .outside := by
    unfold Place.Admits at hplace
    rintro rfl
    cases first <;> simp at hplace
  cases h with
  | @plain c hc =>
    have hafter : place.after c = .inside := by
      unfold Place.Admits at hplace
      cases first with
      | false =>
        have hclose : c ≠ ']' := fun heq => by simpa using hfirst (by rw [heq])
        rw [if_neg (by decide)] at hplace
        simp [hplace, Place.after, hc, hclose]
      | true =>
        rw [if_pos rfl] at hplace
        rcases hplace with rfl | ⟨rfl, hcaret⟩
        · simp [Place.after, hc]
        · have hne : c ≠ '^' := by simpa using hcaret
          simp [Place.after, hc, hne]
    exact hafter ▸ Leads.char fun heq => absurd heq hin
  | @escaped c e he =>
    have hafter : place.after '\\' = .insideEscape := by
      cases place with
      | outside => exact absurd rfl hin
      | escape =>
        unfold Place.Admits at hplace
        cases first <;> simp at hplace
      | insideEscape =>
        unfold Place.Admits at hplace
        cases first <;> simp at hplace
      | opened | negated | inside => rfl
    have hbackslash : Leads place ['\\'] .insideEscape :=
      hafter ▸ Leads.char fun heq => absurd heq hin
    have hskipped : Leads .insideEscape [c] .inside := Leads.char nofun
    exact hbackslash.append hskipped

theorem Grammar.Listing.leads {place : Place} {first : Bool} {cs members : List Char}
    (h : Listing first cs members) (hplace : place.Admits first cs) :
    Leads place (cs ++ [']']) .outside := by
  have hinside (cs : List Char) : Place.Admits false cs .inside := rfl
  induction h generalizing place with
  | nil =>
    have hstart : place = .inside := hplace
    rw [hstart]
    exact Leads.char nofun
  | @set first part rest members more hpart hrest ih =>
    have hbracket : part = [']'] → first = true := by
      rintro rfl
      cases hpart
    rw [List.append_assoc]
    exact (hpart.leads hplace hbracket).append (ih (hinside rest))
  | single hpart hfirst halone hrest ih =>
    rw [List.append_assoc]
    exact (hpart.leads hplace hfirst).append (ih (hinside _))
  | @range first part last rest more start stop hpart hfirst hlast hclosing hle hrest ih =>
    rw [List.append_assoc, List.append_assoc] at *
    have hhyphen : Leads .inside ['-'] .inside := Leads.char nofun
    have hstop : Leads .inside last .inside :=
      hlast.leads (hinside (last ++ rest)) fun heq => absurd heq hclosing
    have hend := ih (hinside rest)
    have hbehind := hhyphen.append (hstop.append hend)
    exact (hpart.leads hplace hfirst).append (by simpa using hbehind)

theorem Grammar.Class.leads {cs members : List Char} (h : Class cs members) :
    Leads .opened cs .outside := by
  cases h with
  | positive hcaret hcs hmembers => exact hcs.leads (.inr ⟨rfl, hcaret⟩)
  | negative hcs hmembers =>
    have hnegated : Leads .opened ['^'] .negated := Leads.char nofun
    exact hnegated.append (hcs.leads (.inl rfl))

/-- All repetitions behind the text are limited if those behind its end are. -/
def Keeps (maxRepeat : Nat) (cs : List Char) : Prop :=
  ∀ rest, (∀ behind ∈ bracesIn .outside rest, Limited maxRepeat behind) →
    ∀ behind ∈ bracesIn .outside (cs ++ rest), Limited maxRepeat behind

namespace Keeps

variable {maxRepeat : Nat} {cs more : List Char}

theorem of_leads (h : Leads .outside cs .outside) : Keeps maxRepeat cs := by
  intro rest hrest
  rwa [h]

theorem append (h : Keeps maxRepeat cs) (hmore : Keeps maxRepeat more) :
    Keeps maxRepeat (cs ++ more) := by
  intro rest hrest
  rw [List.append_assoc]
  exact h _ (hmore rest hrest)

theorem brace (h : ∀ rest, Limited maxRepeat (cs ++ rest)) (hcs : Leads .outside cs .outside) :
    Keeps maxRepeat ('\x7b' :: cs) := by
  intro rest hrest behind hbehind
  rw [List.cons_append, bracesIn, if_pos ⟨rfl, rfl⟩, hcs] at hbehind
  rcases List.mem_cons.mp hbehind with rfl | hmem
  · exact h rest
  · exact hrest behind hmem

end Keeps

theorem Grammar.Lazy.leads {mark : List Char} (h : Lazy mark) : Leads .outside mark .outside := by
  cases h with
  | absent => exact .nil .outside
  | present => exact .plain (by decide)

theorem Grammar.Number.leads {digits : List Char} {n : Nat} (h : Number digits n) :
    Leads .outside digits .outside := by
  refine .plain_all fun c hc hmem => ?_
  have hdigit := h.2.1 c hc
  simp only [List.mem_cons, List.not_mem_nil, or_false] at hmem
  rcases hmem with rfl | rfl | rfl <;> simp at hdigit

theorem Grammar.Quantifier.keeps {maxRepeat least most : Nat} {cs : List Char}
    (h : Quantifier maxRepeat cs least most) : Keeps maxRepeat cs := by
  have hclose : Leads .outside ['\x7d'] .outside := .plain (by decide)
  have hcomma : Leads .outside [','] .outside := .plain (by decide)
  cases h with
  | once => exact .of_leads (.nil .outside)
  | optional hmark =>
    exact .of_leads ((Leads.plain (c := '?') (by decide)).append hmark.leads)
  | star hmark => exact .of_leads ((Leads.plain (c := '*') (by decide)).append hmark.leads)
  | plus hmark => exact .of_leads ((Leads.plain (c := '+') (by decide)).append hmark.leads)
  | @exactly digits mark n hdigits hn hmark =>
    have htext : '\x7b' :: digits ++ '\x7d' :: mark = '\x7b' :: (digits ++ '\x7d' :: mark) := rfl
    rw [htext]
    refine .brace (fun rest => ?_) (hdigits.leads.append (hclose.append hmark.leads))
    rw [List.append_assoc, List.cons_append]
    refine ⟨⟨_, numberAt?_number hdigits rfl _, hn⟩, fun most hmost => ?_⟩
    rw [secondNumber?_number hdigits rfl, if_neg (by decide)] at hmost
    cases hmost
  | @atLeast digits mark n hdigits hn hmark =>
    have hrest := hcomma.append (hclose.append hmark.leads)
    have htext : '\x7b' :: digits ++ ',' :: '\x7d' :: mark =
        '\x7b' :: (digits ++ ',' :: '\x7d' :: mark) := rfl
    rw [htext]
    refine .brace (fun rest => ?_) (hdigits.leads.append hrest)
    rw [List.append_assoc, List.cons_append]
    refine ⟨⟨_, numberAt?_number hdigits rfl _, hn⟩, fun most hmost => ?_⟩
    rw [secondNumber?_number hdigits rfl, if_pos rfl] at hmost
    simp [numberAt?] at hmost
  | @between digits others mark least most hdigits hothers hle hleast hmost hmark =>
    have hrest := hcomma.append (hothers.leads.append (hclose.append hmark.leads))
    have htext : '\x7b' :: digits ++ ',' :: others ++ '\x7d' :: mark =
        '\x7b' :: (digits ++ ',' :: (others ++ '\x7d' :: mark)) := by simp
    rw [htext]
    refine .brace (fun rest => ?_) (hdigits.leads.append hrest)
    rw [List.append_assoc, List.cons_append]
    refine ⟨⟨_, numberAt?_number hdigits rfl _, hleast⟩, fun written hwritten => ?_⟩
    rw [secondNumber?_number hdigits rfl, if_pos rfl, List.append_assoc, List.cons_append,
      numberAt?_number hothers rfl] at hwritten
    exact Option.some.inj hwritten ▸ hmost

mutual

theorem Grammar.Atom.keeps {maxRepeat depth : Nat} {cs : List Char} {tree : Tree}
    (h : Atom maxRepeat depth cs tree) : Keeps maxRepeat cs := by
  have hclose : Leads .outside [')'] .outside := .plain (by decide)
  cases h with
  | literal hc =>
    refine .of_leads (.plain fun hmem => hc ?_)
    simp only [List.mem_cons, List.not_mem_nil, or_false] at hmem
    rcases hmem with rfl | rfl | rfl <;> decide
  | any => exact .of_leads (.plain (by decide))
  | escapedChar => exact .of_leads (.escaped _)
  | escapedSet => exact .of_leads (.escaped _)
  | charClass hclass =>
    have hopen : Leads .outside ['['] .opened := Leads.char fun _ => by decide
    exact .of_leads (hopen.append hclass.leads)
  | group hbranches =>
    have hopen : Leads .outside ['('] .outside := .plain (by decide)
    exact ((Keeps.of_leads hopen).append hbranches.keeps).append (.of_leads hclose)
  | markedGroup hbranches =>
    have hopen : Leads .outside ['(', '?', ':'] .outside := .plain_all (by simp)
    exact ((Keeps.of_leads hopen).append hbranches.keeps).append (.of_leads hclose)

theorem Grammar.Concatenation.keeps {maxRepeat depth : Nat} {cs : List Char}
    {items : List Item} (h : Concatenation maxRepeat depth cs items) : Keeps maxRepeat cs := by
  cases h with
  | nil => exact .of_leads (.nil .outside)
  | cons htext hmark hrest => exact htext.keeps.append (hmark.keeps.append hrest.keeps)

theorem Grammar.Alternation.keeps {maxRepeat depth : Nat} {cs : List Char}
    {branches : List (List Item)} (h : Alternation maxRepeat depth cs branches) :
    Keeps maxRepeat cs := by
  cases h with
  | last hitems => exact hitems.keeps
  | cons hitems hrest =>
    have hbar : Leads .outside ['|'] .outside := .plain (by decide)
    exact hitems.keeps.append ((Keeps.of_leads hbar).append hrest.keeps)

end

theorem limited_of_parse {pattern : String} {maxRepeat : Nat} {tree : Tree}
    (h : parse pattern maxRepeat = .ok tree) :
    ∀ behind ∈ bracesIn .outside (stripDelimiters pattern.toList),
      Limited maxRepeat behind := by
  cases (parse_eq_ok_iff.mp h).1 with
  | root hbranches =>
    have hkept := hbranches.keeps [] nofun
    rwa [List.append_nil] at hkept

def upTo (digits : List Char) : List Char := 'a' :: '\x7b' :: '0' :: ',' :: digits ++ ['\x7d']

theorem undelimited_upTo (digits : List Char) : Undelimited (upTo digits) := by
  have hlast : (upTo digits).getLast? = some '\x7d' := List.getLast?_concat
  have hhead : (upTo digits).head? = some 'a' := rfl
  refine ⟨trim_between_marks rfl rfl ('\x7b' :: '0' :: ',' :: digits), ?_, ?_, ?_⟩
  · rw [hhead]
    decide
  · rw [hhead]
    decide
  · rw [hlast]
    decide

theorem derives_upTo {maxRepeat most : Nat} {digits : List Char} (hdigits : Number digits most)
    (hmost : most ≤ min (maxBound + maxRepeat) countMax) :
    Derives maxRepeat (upTo digits) (.choice [[.repeated (.literal 'a') 0 most]]) := by
  have hletter : Atom maxRepeat maxNesting ['a'] (.literal 'a') := .literal (by decide)
  have hzero : Number ['0'] 0 := ⟨by decide, by simp, rfl⟩
  have hmark : Quantifier maxRepeat ('\x7b' :: ['0'] ++ ',' :: digits ++ '\x7d' :: []) 0 most :=
    .between hzero hdigits (Nat.zero_le most) (Nat.zero_le maxBound) hmost .absent
  have hitems : Concatenation maxRepeat maxNesting
      (['a'] ++ ('\x7b' :: ['0'] ++ ',' :: digits ++ '\x7d' :: [] ++ []))
      [.repeated (.literal 'a') 0 most] := .cons hletter hmark .nil
  rw [List.append_nil] at hitems
  exact .root (.last hitems)

/-- A second number may exceed `maxBound` by `maxRepeat`, and as far as the tree stays within the
limits, it does. -/
theorem parse_upTo {maxRepeat most : Nat} {digits : List Char} (hdigits : Number digits most)
    (hmost : most ≤ min (maxBound + maxRepeat) countMax) (houtput : most ≤ maxOutput) :
    parse (String.ofList (upTo digits)) maxRepeat =
      .ok (.choice [[.repeated (.literal 'a') 0 most]]) := by
  have hwords : maxOutput + 1 ≤ maxSteps ∧ maxSteps ≤ wordMax := by decide
  refine parse_eq_ok_iff.mpr ⟨?_, ?_, ?_⟩
  · rw [String.toList_ofList, (undelimited_upTo _).strip]
    exact derives_upTo hdigits hmost
  · simp only [Tree.maxLength, longestBranch, sequenceLength, cappedAdd, cappedMul]
    omega
  · simp only [Tree.maxVisits, busiestBranch, sequenceVisits, cappedAdd, cappedMul]
    omega

/-- In a pattern that is read each repetition names a first number, which is at most `maxBound`, and
a second one that it names is at most `maxRepeat` more. That is the limit: however far above
`maxBound`, a number up to there is read if so many characters are. -/
theorem named_numbers_limited (maxRepeat : Nat) :
    (∀ (pattern : String) (tree : Tree), parse pattern maxRepeat = .ok tree →
      ∀ behind ∈ bracesIn .outside (stripDelimiters pattern.toList),
        (∃ least, numberAt? behind = some least ∧ least ≤ maxBound) ∧
        ∀ most, secondNumber? behind = some most → most ≤ min (maxBound + maxRepeat) countMax) ∧
    ∀ (digits : List Char) (most : Nat), Number digits most →
      most ≤ min (maxBound + maxRepeat) countMax → most ≤ maxOutput →
      ∃ tree, parse (String.ofList (upTo digits)) maxRepeat = .ok tree := by
  constructor
  · intro pattern tree hparse behind hbehind
    have hlimited := limited_of_parse hparse behind hbehind
    exact ⟨hlimited.first, hlimited.second⟩
  · intro digits most hdigits hmost houtput
    exact ⟨_, parse_upTo hdigits hmost houtput⟩

theorem number_thousandOne : Number ['1', '0', '0', '1'] 1001 := ⟨by decide, by simp, rfl⟩

/-- A brace, repeated up to once more than `maxBound` says. -/
def braces : Tree := .choice [[.repeated (.literal '\x7b') 2 1001]]

theorem parse_braces : parse "\\\x7b\x7b2,1001\x7d" 1 = .ok braces := by
  have hbody : stripDelimiters "\\\x7b\x7b2,1001\x7d".toList =
      ['\\', '\x7b', '\x7b', '2', ',', '1', '0', '0', '1', '\x7d'] := by decide
  have hparsed : parseTree 1 ['\\', '\x7b', '\x7b', '2', ',', '1', '0', '0', '1', '\x7d'] =
      .ok braces := by rfl
  rw [← hbody] at hparsed
  exact parse_eq_ok_iff.mpr ⟨parseTree_eq_ok_iff.mp hparsed, by decide, by decide⟩

theorem named_numbers_limited_braces :
    parse "\\\x7b\x7b2,1001\x7d" 1 = .ok braces ∧
      ['2', ',', '1', '0', '0', '1', '\x7d'] ∈
        bracesIn .outside (stripDelimiters "\\\x7b\x7b2,1001\x7d".toList) ∧
      secondNumber? ['2', ',', '1', '0', '0', '1', '\x7d'] = some 1001 ∧
      1001 ≤ min (maxBound + 1) countMax ∧
      ∃ tree, parse (String.ofList (upTo ['1', '0', '0', '1'])) 1 = .ok tree := by
  obtain ⟨hlimited, hread⟩ := named_numbers_limited 1
  have hbehind : ['2', ',', '1', '0', '0', '1', '\x7d'] ∈
      bracesIn .outside (stripDelimiters "\\\x7b\x7b2,1001\x7d".toList) := by decide
  have hsecond : secondNumber? ['2', ',', '1', '0', '0', '1', '\x7d'] = some 1001 := by decide
  have hmost := (hlimited _ _ parse_braces _ hbehind).2 1001 hsecond
  exact ⟨parse_braces, hbehind, hsecond, hmost,
    hread _ 1001 number_thousandOne hmost (by decide)⟩

/-- A number that a pattern names may be beyond `maxBound`. -/
theorem named_numbers_not_always_limited :
    ¬ ∀ (pattern : String) (maxRepeat : Nat) (tree : Tree), parse pattern maxRepeat = .ok tree →
      ∀ behind ∈ bracesIn .outside (stripDelimiters pattern.toList), ∀ n,
        numberAt? behind = some n ∨ secondNumber? behind = some n → n ≤ maxBound := by
  intro h
  have hmost : 1001 ≤ min (maxBound + 1) countMax := by decide
  have hparse := parse_upTo number_thousandOne hmost (by decide)
  have hbehind : ['0', ',', '1', '0', '0', '1', '\x7d'] ∈ bracesIn .outside
      (stripDelimiters (String.ofList (upTo ['1', '0', '0', '1'])).toList) := by
    rw [String.toList_ofList, (undelimited_upTo _).strip]
    decide
  have hsecond : secondNumber? ['0', ',', '1', '0', '0', '1', '\x7d'] = some 1001 := by decide
  have hbound := h _ 1 _ hparse _ hbehind 1001 (.inr hsecond)
  exact absurd hbound (by decide)

end Pastiche.Pattern
