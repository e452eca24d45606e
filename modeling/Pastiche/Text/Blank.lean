/-! White space, and what is left of a text when it is taken off the ends. -/

namespace Pastiche.Text

/-- The characters with the Unicode property `White_Space`. -/
def isBlank (c : Char) : Bool :=
  let n := c.toNat
  (9 ≤ n && n ≤ 13) || n == 0x20 || n == 0x85 || n == 0xA0 || n == 0x1680 ||
    (0x2000 ≤ n && n ≤ 0x200A) || n == 0x2028 || n == 0x2029 || n == 0x202F ||
    n == 0x205F || n == 0x3000

def trimStart (cs : List Char) : List Char := cs.dropWhile isBlank

def trimEnd (cs : List Char) : List Char := (cs.reverse.dropWhile isBlank).reverse

def trim (cs : List Char) : List Char := trimEnd (trimStart cs)

def strip (s : String) : String := String.ofList (trim s.toList)

theorem trimStart_of_head {c : Char} {cs : List Char} (h : isBlank c = false) :
    trimStart (c :: cs) = c :: cs := by
  simp [trimStart, h]

theorem trimEnd_append_blank {cs blanks : List Char} (h : ∀ c ∈ blanks, isBlank c = true)
    (hlast : ∀ c ∈ cs.getLast?, isBlank c = false) : trimEnd (cs ++ blanks) = cs := by
  have hreverse : ∀ c ∈ blanks.reverse, isBlank c = true := fun c hc => h c (List.mem_reverse.mp hc)
  rw [trimEnd, List.reverse_append, List.dropWhile_append_of_pos hreverse]
  cases hcs : cs.reverse with
  | nil => simpa using hcs
  | cons c rest =>
    have hc : isBlank c = false := hlast c (by rw [← List.head?_reverse, hcs]; rfl)
    rw [List.dropWhile_cons_of_neg (by simp [hc]), ← hcs, List.reverse_reverse]

theorem trim_between {before cs after : List Char} (hbefore : ∀ c ∈ before, isBlank c = true)
    (hafter : ∀ c ∈ after, isBlank c = true) (hfirst : ∀ c ∈ cs.head?, isBlank c = false)
    (hlast : ∀ c ∈ cs.getLast?, isBlank c = false) : trim (before ++ cs ++ after) = cs := by
  rw [trim, trimStart, List.append_assoc, List.dropWhile_append_of_pos hbefore]
  cases cs with
  | nil =>
    have hnil : (after ++ []).dropWhile isBlank = [] := List.dropWhile_append_of_pos hafter
    rw [List.append_nil] at hnil
    rw [List.nil_append, hnil]
    rfl
  | cons c rest =>
    have hc : isBlank c = false := hfirst c rfl
    rw [List.cons_append, List.dropWhile_cons_of_neg (by simp [hc]), ← List.cons_append]
    exact trimEnd_append_blank hafter hlast

theorem getLast?_concat_not_blank {cs : List Char} {c : Char} (h : isBlank c = false) :
    ∀ d ∈ (cs ++ [c]).getLast?, isBlank d = false := by
  intro d hd
  rw [List.getLast?_concat] at hd
  obtain rfl : c = d := by simpa using hd
  exact h

theorem trim_of_ends {before cs : List Char} {c d : Char}
    (hbefore : ∀ e ∈ before, isBlank e = true) (hc : isBlank c = false)
    (hd : isBlank d = false) : trim (before ++ (c :: cs ++ [d])) = c :: cs ++ [d] := by
  have hfirst : ∀ e ∈ (c :: cs ++ [d]).head?, isBlank e = false := by
    intro e he
    obtain rfl : c = e := by simpa using he
    exact hc
  have hnone : ∀ e ∈ ([] : List Char), isBlank e = true := by simp
  have htrim := trim_between hbefore hnone hfirst (getLast?_concat_not_blank hd)
  rwa [List.append_nil] at htrim

end Pastiche.Text
