import Pastiche.Fault
import Pastiche.Proofs.Locale.Chain
import Pastiche.Proofs.Text.Casing
import Pastiche.Proofs.Text.Padded

/-!
Tags of locales. The blanks around a tag, its separator and the case of its letters make no
difference, and nothing else about it does not: the tag that a locale shows is the normal form of all
tags that are read as this locale.
-/

namespace Pastiche.Locale

structure IsLanguage (cs : List Char) : Prop where
  least : 2 ≤ cs.length
  most : cs.length ≤ 8
  letters : ∀ c ∈ cs, c.isAlpha = true

def IsCountry (cs : List Char) : Prop :=
  (cs.length = 2 ∧ ∀ c ∈ cs, c.isAlpha = true) ∨ (cs.length = 3 ∧ ∀ c ∈ cs, c.isDigit = true)

/-- The text is a tag with this language and, behind a hyphen or an underscore, this country. -/
inductive HasParts : List Char → List Char → Option (List Char) → Prop where
  | language {language : List Char} (hlanguage : IsLanguage language) :
      HasParts language language none
  | country {language country : List Char} {separator : Char} (hlanguage : IsLanguage language)
      (hseparator : separator = '-' ∨ separator = '_') (hcountry : IsCountry country) :
      HasParts (language ++ separator :: country) language (some country)

def IsTag (cs : List Char) : Prop := ∃ language country, HasParts cs language country

/-- The same for tags that differ only in their separators and in the case of their letters. -/
def folded (cs : List Char) : List Char := cs.map fun c => if c = '-' then '_' else c.toLower

theorem isLanguage_iff {cs : List Char} : isLanguage cs = true ↔ IsLanguage cs := by
  simp only [isLanguage, Bool.and_eq_true, decide_eq_true_eq, List.all_eq_true]
  exact ⟨fun h => ⟨h.1.1, h.1.2, h.2⟩, fun h => ⟨⟨h.least, h.most⟩, h.letters⟩⟩

theorem isCountry_iff {cs : List Char} : isCountry cs = true ↔ IsCountry cs := by
  simp only [isCountry, IsCountry, Bool.or_eq_true, Bool.and_eq_true, beq_iff_eq, List.all_eq_true]

theorem isSeparator_iff {c : Char} : isSeparator c = true ↔ c = '-' ∨ c = '_' := by
  simp only [isSeparator, Bool.or_eq_true, beq_iff_eq]

/-- A character of a language or of a country. -/
def IsPartChar (c : Char) : Prop := c.isAlpha = true ∨ c.isDigit = true

theorem IsLanguage.chars {cs : List Char} (h : IsLanguage cs) : ∀ c ∈ cs, IsPartChar c :=
  fun c hc => .inl (h.letters c hc)

theorem IsCountry.chars {cs : List Char} (h : IsCountry cs) : ∀ c ∈ cs, IsPartChar c := by
  intro c hc
  rcases h with ⟨-, hletters⟩ | ⟨-, hdigits⟩
  · exact .inl (hletters c hc)
  · exact .inr (hdigits c hc)

theorem IsPartChar.bounds {c : Char} (h : IsPartChar c) :
    '0'.toNat ≤ c.toNat ∧ c.toNat ≤ 'z'.toNat ∧ c.toNat ≠ '_'.toNat := by
  rw [show '0'.toNat = 48 from rfl, show 'z'.toNat = 122 from rfl, show '_'.toNat = 95 from rfl]
  rcases h with halpha | hdigit
  · have hrange : (65 ≤ c.toNat ∧ c.toNat ≤ 90) ∨ 97 ≤ c.toNat ∧ c.toNat ≤ 122 :=
      (Bool.or_eq_true_iff.mp halpha).imp Text.isUpper_iff.mp Text.isLower_iff.mp
    omega
  · rw [Char.isDigit_iff_toNat, show '0'.toNat = 48 from rfl, show '9'.toNat = 57 from rfl] at hdigit
    omega

theorem IsPartChar.not_separator {c : Char} (h : IsPartChar c) : isSeparator c = false := by
  obtain ⟨hleast, -, hunderscore⟩ := h.bounds
  refine Bool.eq_false_iff.mpr fun hseparator => ?_
  rcases isSeparator_iff.mp hseparator with rfl | rfl
  · exact absurd hleast (by decide)
  · exact hunderscore rfl

theorem IsPartChar.not_blank {c : Char} (h : IsPartChar c) : Text.isBlank c = false := by
  obtain ⟨hleast, hmost, -⟩ := h.bounds
  rw [show '0'.toNat = 48 from rfl] at hleast
  rw [show 'z'.toNat = 122 from rfl] at hmost
  simp only [Text.isBlank, Bool.or_eq_false_iff, Bool.and_eq_false_iff, decide_eq_false_iff_not,
    beq_eq_false_iff_ne, ne_eq]
  omega

theorem not_blank_of_separator {c : Char} (h : c = '-' ∨ c = '_') : Text.isBlank c = false := by
  rcases h with rfl | rfl <;> decide

namespace HasParts

variable {cs language : List Char} {country : Option (List Char)}

theorem isLanguage (h : HasParts cs language country) : IsLanguage language := by
  cases h with
  | language hlanguage => exact hlanguage
  | country hlanguage hseparator hcountry => exact hlanguage

theorem not_blank (h : HasParts cs language country) : ∀ c ∈ cs, Text.isBlank c = false := by
  intro c hc
  cases h with
  | language hlanguage => exact (hlanguage.chars c hc).not_blank
  | country hlanguage hseparator hcountry =>
    rcases List.mem_append.mp hc with hmem | hmem
    · exact (hlanguage.chars c hmem).not_blank
    · rcases List.mem_cons.mp hmem with rfl | hmem
      · exact not_blank_of_separator hseparator
      · exact (hcountry.chars c hmem).not_blank

theorem ne_nil (h : HasParts cs language country) : cs ≠ [] := by
  cases h with
  | language hlanguage =>
    rintro rfl
    exact absurd hlanguage.least (by decide)
  | country => exact List.append_ne_nil_of_right_ne_nil _ (List.cons_ne_nil _ _)

theorem trim_eq (h : HasParts cs language country) : Text.trim cs = cs := by
  have hnone : ∀ c ∈ ([] : List Char), Text.isBlank c = true := nofun
  have htrim := Text.trim_between hnone hnone
    (fun c hc => h.not_blank c (List.mem_of_mem_head? hc))
    (fun c hc => h.not_blank c (List.mem_of_mem_getLast? hc))
  simpa using htrim

end HasParts

theorem splitOnP_cases (cs : List Char) :
    (cs.splitOnP isSeparator = [cs]) ∨
      ∃ first separator rest, cs = first ++ separator :: rest ∧ isSeparator separator = true ∧
        cs.splitOnP isSeparator = first :: rest.splitOnP isSeparator := by
  induction cs with
  | nil => exact .inl rfl
  | cons c cs ih =>
    by_cases hc : isSeparator c = true
    · refine .inr ⟨[], c, cs, rfl, hc, ?_⟩
      rw [List.splitOnP_cons_eq_if_modifyHead, if_pos hc]
    · rw [List.splitOnP_cons_eq_if_modifyHead, if_neg hc]
      rcases ih with hwhole | ⟨first, separator, rest, hcs, hseparator, hsplit⟩
      · exact .inl (by rw [hwhole, List.modifyHead_cons])
      · refine .inr ⟨c :: first, separator, rest, by rw [hcs, List.cons_append], hseparator, ?_⟩
        rw [hsplit, List.modifyHead_cons]

theorem splitOnP_eq_single {cs part : List Char} (h : cs.splitOnP isSeparator = [part]) :
    cs = part := by
  rcases splitOnP_cases cs with hwhole | ⟨first, separator, rest, -, -, hsplit⟩
  · rw [hwhole] at h
    exact (List.cons.inj h).1
  · rw [hsplit] at h
    exact absurd (List.cons.inj h).2 (List.splitOnP_ne_nil _ _)

theorem splitOnP_eq_pair {cs first second : List Char}
    (h : cs.splitOnP isSeparator = [first, second]) :
    ∃ separator, isSeparator separator = true ∧ cs = first ++ separator :: second := by
  rcases splitOnP_cases cs with hwhole | ⟨front, separator, rest, hcs, hseparator, hsplit⟩
  · rw [hwhole] at h
    exact absurd (List.cons.inj h).2 (List.cons_ne_nil _ _).symm
  · rw [hsplit] at h
    obtain ⟨rfl, hrest⟩ := List.cons.inj h
    exact ⟨separator, hseparator, by rw [hcs, splitOnP_eq_single hrest]⟩

theorem ofTag?_eq_some_iff {tag : String} {l : Locale} :
    ofTag? tag = some l ↔ ∃ language country, HasParts (Text.trim tag.toList) language country ∧
      l = ofParts (.ofList language) (country.map .ofList) := by
  constructor
  · intro h
    unfold ofTag? at h
    split at h
    · rename_i language hsplit
      split at h
      · rename_i hlanguage
        rw [splitOnP_eq_single hsplit]
        exact ⟨language, none, .language (isLanguage_iff.mp hlanguage), (Option.some.inj h).symm⟩
      · cases h
    · rename_i language country hsplit
      split at h
      · rename_i hparts
        obtain ⟨hlanguage, hcountry⟩ := Bool.and_eq_true_iff.mp hparts
        obtain ⟨separator, hseparator, hcs⟩ := splitOnP_eq_pair hsplit
        rw [hcs]
        exact ⟨language, some country, .country (isLanguage_iff.mp hlanguage)
          (isSeparator_iff.mp hseparator) (isCountry_iff.mp hcountry), (Option.some.inj h).symm⟩
      · cases h
    · cases h
  · rintro ⟨language, country, hparts, rfl⟩
    unfold ofTag?
    generalize Text.trim tag.toList = cs at hparts ⊢
    cases hparts with
    | language hlanguage =>
      have hsplit := List.splitOnP_eq_singleton fun c hc => (hlanguage.chars c hc).not_separator
      simp [hsplit, isLanguage_iff.mpr hlanguage]
    | @country _ country separator hlanguage hseparator hcountry =>
      have hfirst := List.splitOnP_append_cons_of_forall_mem
        (fun c hc => (hlanguage.chars c hc).not_separator) separator (isSeparator_iff.mpr hseparator)
        country
      have hsecond := List.splitOnP_eq_singleton fun c hc => (hcountry.chars c hc).not_separator
      simp [hfirst, hsecond, isLanguage_iff.mpr hlanguage, isCountry_iff.mpr hcountry]

section Case

variable {cs : List Char}

theorem toUpper_of_isDigit {c : Char} (h : c.isDigit = true) : c.toUpper = c :=
  Text.of_table (P := fun c => c.isDigit = true → c.toUpper = c) (by decide +kernel)
    (fun _ hc _ => hc.toUpper) c h

theorem IsLanguage.lower (h : IsLanguage cs) : IsLanguage (cs.map Char.toLower) where
  least := by rw [List.length_map]; exact h.least
  most := by rw [List.length_map]; exact h.most
  letters := by
    intro c hc
    obtain ⟨d, hd, rfl⟩ := List.mem_map.mp hc
    rw [Text.isAlpha_toLower]
    exact h.letters d hd

theorem IsCountry.upper (h : IsCountry cs) : IsCountry (cs.map Char.toUpper) := by
  rw [IsCountry, List.length_map]
  refine h.imp (fun hletters => ⟨hletters.1, fun c hc => ?_⟩) fun hdigits => ⟨hdigits.1, fun c hc => ?_⟩
  · obtain ⟨d, hd, rfl⟩ := List.mem_map.mp hc
    rw [Text.isAlpha_toUpper]
    exact hletters.2 d hd
  · obtain ⟨d, hd, rfl⟩ := List.mem_map.mp hc
    rw [toUpper_of_isDigit (hdigits.2 d hd)]
    exact hdigits.2 d hd

theorem IsPartChar.toLower_ne {c : Char} (h : IsPartChar c) : c.toLower ≠ '_' := by
  refine Text.of_ascii (P := fun c => c ≠ '_' → c.toLower ≠ '_') (by decide +kernel)
    (Nat.lt_of_le_of_lt h.bounds.2.1 (by decide)) ?_
  rintro rfl
  exact h.bounds.2.2 rfl

theorem map_toUpper_eq_iff {cs ds : List Char} :
    cs.map Char.toUpper = ds.map Char.toUpper ↔ cs.map Char.toLower = ds.map Char.toLower := by
  constructor
  · intro h
    simpa [Function.comp_def] using congrArg (List.map Char.toLower) h
  · intro h
    simpa [Function.comp_def] using congrArg (List.map Char.toUpper) h

end Case

theorem ofParts_eq_iff {language other : List Char} {country otherCountry : Option (List Char)} :
    ofParts (.ofList language) (country.map .ofList) =
        ofParts (.ofList other) (otherCountry.map .ofList) ↔
      language.map Char.toLower = other.map Char.toLower ∧
        country.map (List.map Char.toLower) = otherCountry.map (List.map Char.toLower) := by
  have hlanguage : (String.ofList language).map Char.toLower = (String.ofList other).map Char.toLower ↔
      language.map Char.toLower = other.map Char.toLower := by
    rw [← String.toList_inj, String.toList_map, String.toList_map, String.toList_ofList,
      String.toList_ofList]
  rw [ofParts, ofParts, Locale.mk.injEq, hlanguage]
  refine and_congr_right fun _ => ?_
  cases country with
  | none => cases otherCountry <;> simp
  | some country =>
    cases otherCountry with
    | none => simp
    | some otherCountry =>
      simp only [Option.map_some, Option.some.injEq]
      rw [← map_toUpper_eq_iff, ← String.toList_inj, String.toList_map, String.toList_map,
        String.toList_ofList, String.toList_ofList]

theorem toList_tag_language (language : List Char) :
    (ofParts (.ofList language) none).tag.toList = language.map Char.toLower := by
  simp [ofParts, tag]

theorem toList_tag_country (language country : List Char) :
    (ofParts (.ofList language) (some (.ofList country))).tag.toList =
      language.map Char.toLower ++ '_' :: country.map Char.toUpper := by
  simp [ofParts, tag]

namespace HasParts

variable {cs language : List Char} {country : Option (List Char)}

theorem shown (h : HasParts cs language country) :
    HasParts (ofParts (.ofList language) (country.map .ofList)).tag.toList
      (language.map Char.toLower) (country.map (List.map Char.toUpper)) := by
  cases h with
  | language hlanguage =>
    rw [Option.map_none, toList_tag_language]
    exact .language hlanguage.lower
  | country hlanguage hseparator hcountry =>
    rw [Option.map_some, toList_tag_country]
    exact .country hlanguage.lower (.inr rfl) hcountry.upper

theorem folded_eq (h : HasParts cs language country) :
    folded cs = language.map Char.toLower ++
      (country.elim [] fun letters => '_' :: letters.map Char.toLower) := by
  have hpart : ∀ c, IsPartChar c → (if c = '-' then '_' else c.toLower) = c.toLower := by
    intro c hc
    refine if_neg ?_
    rintro rfl
    exact absurd hc.bounds.1 (by decide)
  cases h with
  | language hlanguage =>
    have hfold := List.map_congr_left fun c hc => hpart c (hlanguage.chars c hc)
    rw [folded, hfold, Option.elim_none, List.append_nil]
  | @country _ country separator hlanguage hseparator hcountry =>
    have hfirst := List.map_congr_left fun c hc => hpart c (hlanguage.chars c hc)
    have hsecond := List.map_congr_left fun c hc => hpart c (hcountry.chars c hc)
    have hseparator' : (if separator = '-' then '_' else separator.toLower) = '_' := by
      rcases hseparator with rfl | rfl <;> decide
    rw [folded, List.map_append, List.map_cons, hfirst, hsecond, hseparator', Option.elim_some]

/-- Tags that are the same when folded have the same parts up to their case, and the other way
round. -/
theorem folded_eq_iff {ds other : List Char} {otherCountry : Option (List Char)}
    (h : HasParts cs language country) (hother : HasParts ds other otherCountry) :
    folded cs = folded ds ↔ language.map Char.toLower = other.map Char.toLower ∧
      country.map (List.map Char.toLower) = otherCountry.map (List.map Char.toLower) := by
  have hlower : ∀ letters : List Char, (∀ c ∈ letters, IsPartChar c) →
      '_' ∉ letters.map Char.toLower := by
    intro letters hletters hmem
    obtain ⟨c, hc, heq⟩ := List.mem_map.mp hmem
    exact (hletters c hc).toLower_ne heq
  rw [h.folded_eq, hother.folded_eq]
  cases h with
  | language hlanguage =>
    cases hother with
    | language hother => simp
    | country hother hseparator hcountry =>
      -- only the second has an underscore
      have hnot := hlower _ hlanguage.chars
      refine ⟨fun heq => absurd ?_ hnot, fun heq => by cases heq.2⟩
      simp only [Option.elim_none, List.append_nil, Option.elim_some] at heq
      simp [heq]
  | country hlanguage hseparator hcountry =>
    have hfirst := hlower _ hlanguage.chars
    have hsecond := hlower _ hcountry.chars
    cases hother with
    | language hother =>
      have hnot := hlower _ hother.chars
      refine ⟨fun heq => absurd ?_ hnot, fun heq => by cases heq.2⟩
      simp only [Option.elim_none, List.append_nil, Option.elim_some] at heq
      simp [← heq]
    | country hother hseparator hcountry =>
      simp only [Option.elim_some, Option.map_some, Option.some.injEq]
      rw [List.append_cons_inj_of_notMem hfirst hsecond]
      simp

end HasParts

section Read

variable {tag : String} {l : Locale}

theorem read_eq_ok_iff : read tag = .ok l ↔ ofTag? tag = some l := by
  rw [read]
  cases ofTag? tag with
  | none => simp
  | some found => simp

theorem read_eq_error_iff {fault : Fault} :
    read tag = .error fault ↔ ofTag? tag = none ∧ fault = .invalidLocale tag := by
  rw [read]
  cases ofTag? tag with
  | none => simp [eq_comm]
  | some found => simp

theorem isTag_iff : IsTag (Text.trim tag.toList) ↔ ∃ l, ofTag? tag = some l := by
  constructor
  · rintro ⟨language, country, hparts⟩
    exact ⟨_, ofTag?_eq_some_iff.mpr ⟨language, country, hparts, rfl⟩⟩
  · rintro ⟨l, hl⟩
    obtain ⟨language, country, hparts, -⟩ := ofTag?_eq_some_iff.mp hl
    exact ⟨language, country, hparts⟩

theorem read_tag_of_read (h : read tag = .ok l) : read l.tag = .ok l := by
  obtain ⟨language, country, hparts, rfl⟩ := ofTag?_eq_some_iff.mp (read_eq_ok_iff.mp h)
  have hshown := hparts.shown
  have htag := hshown
  rw [← hshown.trim_eq] at htag
  have hsame : ofParts (.ofList language) (country.map .ofList) =
      ofParts (.ofList (language.map Char.toLower))
        ((country.map (List.map Char.toUpper)).map .ofList) := by
    rw [ofParts_eq_iff]
    simp [Function.comp_def]
  exact read_eq_ok_iff.mpr (ofTag?_eq_some_iff.mpr ⟨_, _, htag, hsame⟩)

theorem isTag_tag_of_read (h : read tag = .ok l) : IsTag l.tag.toList := by
  obtain ⟨language, country, hparts, rfl⟩ := ofTag?_eq_some_iff.mp (read_eq_ok_iff.mp h)
  exact ⟨_, _, hparts.shown⟩

theorem ofTag?_eq_of_trim_eq {other : String} (h : Text.trim other.toList = Text.trim tag.toList) :
    ofTag? other = ofTag? tag := by
  rw [ofTag?, ofTag?, h]

theorem read_eq_iff_folded {other : String} {m : Locale} (h : read tag = .ok l)
    (hother : read other = .ok m) :
    m = l ↔ folded (Text.trim other.toList) = folded (Text.trim tag.toList) := by
  obtain ⟨language, country, hparts, rfl⟩ := ofTag?_eq_some_iff.mp (read_eq_ok_iff.mp h)
  obtain ⟨_, _, hparts', rfl⟩ := ofTag?_eq_some_iff.mp (read_eq_ok_iff.mp hother)
  rw [ofParts_eq_iff, hparts'.folded_eq_iff hparts]

theorem read_tag_withoutCountry (h : read tag = .ok l) :
    read l.withoutCountry.tag = .ok l.withoutCountry := by
  obtain ⟨language, country, hparts, rfl⟩ := ofTag?_eq_some_iff.mp (read_eq_ok_iff.mp h)
  have hlanguage := HasParts.language hparts.isLanguage
  have halone : ofTag? (.ofList language) = some (ofParts (.ofList language) none) := by
    refine ofTag?_eq_some_iff.mpr ⟨language, none, ?_, rfl⟩
    rw [String.toList_ofList, hlanguage.trim_eq]
    exact hlanguage
  exact read_tag_of_read (read_eq_ok_iff.mpr halone)

theorem read_tag_en : read en.tag = .ok en := by
  decide +kernel

theorem mem_chain {m : Locale} (h : m ∈ l.chain) : m = l ∨ m = l.withoutCountry ∨ m = en := by
  rw [chain_eq_eraseDups, List.mem_eraseDups] at h
  simpa using h

/-- A text is read as a locale if and only if it is a tag between blanks, and of any other text the
whole is reported. The locale is read again from the tag that it shows; the texts that are read as
it are those that are the same tag when separators and case are left out of account. All locales of
its chain are of this kind, and no two of them are the same. -/
theorem tags_have_normal_form (tag : String) :
    ((∃ l, read tag = .ok l) ↔ IsTag (Text.trim tag.toList)) ∧
    (∀ fault, read tag = .error fault ↔
      ¬ IsTag (Text.trim tag.toList) ∧ fault = .invalidLocale tag) ∧
    ∀ l, read tag = .ok l →
      read l.tag = .ok l ∧
      (∀ other m, read other = .ok m →
        (m = l ↔ folded (Text.trim other.toList) = folded (Text.trim tag.toList))) ∧
      (∀ m ∈ l.chain, read m.tag = .ok m) ∧ l.chain.Nodup := by
  refine ⟨?_, fun fault => ?_, fun l hl => ?_⟩
  · simp only [isTag_iff, read_eq_ok_iff]
  · rw [read_eq_error_iff, isTag_iff, Option.eq_none_iff_forall_ne_some, not_exists]
  · refine ⟨read_tag_of_read hl, fun other m hm => read_eq_iff_folded hl hm, fun m hm => ?_,
      chain_nodup l⟩
    rcases mem_chain hm with rfl | rfl | rfl
    · exact read_tag_of_read hl
    · exact read_tag_withoutCountry hl
    · exact read_tag_en

/-- Two texts of one locale, neither of them its normal form, and one text more that is no tag. -/
theorem tags_have_normal_form_chinese :
    IsTag (Text.trim "\u3000Zh-cn\n".toList) ∧
      read "\u3000Zh-cn\n" = .ok (.ofCountry "zh" "CN") ∧
      read "ZH_cN" = .ok (.ofCountry "zh" "CN") ∧ read "zh_CN" = .ok (.ofCountry "zh" "CN") ∧
      folded (Text.trim "ZH_cN".toList) = folded (Text.trim "\u3000Zh-cn\n".toList) ∧
      (∀ m ∈ (ofCountry "zh" "CN").chain, read m.tag = .ok m) ∧
      (ofCountry "zh" "CN").chain.Nodup ∧
      read "zh_CN_" = .error (.invalidLocale "zh_CN_") ∧ ¬ IsTag (Text.trim "zh_CN_".toList) := by
  have hcase (language country : List Char) (h : language.map Char.toLower = ['z', 'h'])
      (h' : country.map Char.toLower = ['c', 'n']) :
      ofParts (.ofList language) ((some country).map .ofList) =
        ofParts (.ofList ['z', 'h']) ((some ['C', 'N']).map .ofList) :=
    ofParts_eq_iff.mpr ⟨h, congrArg some h'⟩
  have hread : read "\u3000Zh-cn\n" = .ok (.ofCountry "zh" "CN") :=
    (read_eq_ok_iff.mpr rfl).trans (congrArg _ (hcase ['Z', 'h'] ['c', 'n'] rfl rfl))
  have hother : read "ZH_cN" = .ok (.ofCountry "zh" "CN") :=
    (read_eq_ok_iff.mpr rfl).trans (congrArg _ (hcase ['Z', 'H'] ['c', 'N'] rfl rfl))
  have hfault : read "zh_CN_" = .error (.invalidLocale "zh_CN_") := rfl
  have hchinese : (ofCountry "zh" "CN").tag = "zh_CN" := by decide +kernel
  obtain ⟨haccepted, -, hlocale⟩ := tags_have_normal_form "\u3000Zh-cn\n"
  obtain ⟨-, hrefused, -⟩ := tags_have_normal_form "zh_CN_"
  obtain ⟨hshown, hsame, hchain, hnodup⟩ := hlocale _ hread
  exact ⟨haccepted.mp ⟨_, hread⟩, hread, hother, hchinese ▸ hshown, (hsame _ _ hother).mp rfl,
    hchain, hnodup, hfault, ((hrefused _).mp hfault).1⟩

end Read

end Pastiche.Locale
