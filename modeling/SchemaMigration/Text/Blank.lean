import SchemaMigration.Text.Cut

/-
  Blank characters.

  A character is blank when it has the White_Space property. `trim` removes
  blanks at both ends, and `words` cuts a text into its maximal runs of
  characters that are not blank.

  Main statements: trimming leaves a text alone that has no blanks at its ends, and
  takes away nothing but blanks.
-/
namespace SchemaMigration.Text

/-- The characters with the White_Space property. -/
def isBlank (c : Char) : Bool :=
  let n := c.toNat
  (9 ≤ n && n ≤ 13) || n == 0x20 || n == 0x85 || n == 0xA0 || n == 0x1680 ||
    (0x2000 ≤ n && n ≤ 0x200A) || n == 0x2028 || n == 0x2029 || n == 0x202F ||
    n == 0x205F || n == 0x3000

/-- The blanks between the words of a line: the blank itself and the tab. -/
def isGap (c : Char) : Bool := c == ' ' || c == '\t'

/-- The text without the blanks it starts with. -/
def trimStart (cs : List Char) : List Char := cs.dropWhile isBlank

/-- The text without the blanks it ends with. -/
def trimEnd (cs : List Char) : List Char := (cs.reverse.dropWhile isBlank).reverse

/-- The text without the blanks at its ends. -/
def trim (cs : List Char) : List Char := trimEnd (trimStart cs)

/-- The maximal runs of characters that are not blank. -/
def words (cs : List Char) : List (List Char) := (pieces isBlank cs).filter (· ≠ [])

theorem trim_eq_self {cs : List Char} (hh : ∀ c ∈ cs.head?, isBlank c = false)
    (hl : ∀ c ∈ cs.getLast?, isBlank c = false) : trim cs = cs := by
  have hstart : ∀ ds : List Char, (∀ c ∈ ds.head?, isBlank c = false) → trimStart ds = ds := by
    intro ds hds
    cases ds with
    | nil => rfl
    | cons d ds => rw [trimStart, List.dropWhile_cons, hds d rfl, if_neg Bool.false_ne_true]
  have hrev : trimStart cs.reverse = cs.reverse :=
    hstart _ fun c hc => hl c (by rwa [List.head?_reverse] at hc)
  rw [trim, hstart cs hh, trimEnd]
  show (trimStart cs.reverse).reverse = cs
  rw [hrev, List.reverse_reverse]

theorem trim_append {head middle tail : List Char} {c d : Char} (hhead : head.head? = some c)
    (htail : tail.getLast? = some d) (hc : isBlank c = false) (hd : isBlank d = false) :
    trim (head ++ (middle ++ tail)) = head ++ (middle ++ tail) := by
  apply trim_eq_self
  · rw [List.head?_append, hhead, Option.some_or]
    rintro e ⟨⟩
    exact hc
  · rw [List.getLast?_append, List.getLast?_append, htail, Option.some_or, Option.some_or]
    rintro e ⟨⟩
    exact hd

theorem isPrefix_trimEnd (cs : List Char) : trimEnd cs <+: cs := by
  have h := List.reverse_prefix.2 (List.dropWhile_suffix isBlank (l := cs.reverse))
  rwa [List.reverse_reverse] at h

/-- Where a text starts with one character, no other stands first once blanks are cut off. -/
theorem head?_trimEnd_cons {c d : Char} (h : c ≠ d) (cs : List Char) :
    (trimEnd (c :: cs)).head? ≠ some d := by
  intro hhead
  obtain ⟨rest, hrest⟩ := isPrefix_trimEnd (c :: cs)
  have hfirst : (trimEnd (c :: cs) ++ rest).head? = some d := by
    rw [List.head?_append, hhead, Option.some_or]
  rw [hrest] at hfirst
  exact h (Option.some.inj hfirst)

theorem trimEnd_trimEnd (cs : List Char) : trimEnd (trimEnd cs) = trimEnd cs := by
  rw [trimEnd, trimEnd, List.reverse_reverse]
  have hnot := List.head?_dropWhile_not isBlank cs.reverse
  cases hback : cs.reverse.dropWhile isBlank with
  | nil => rfl
  | cons c back =>
    rw [hback] at hnot
    rw [List.dropWhile_cons, if_neg (Bool.eq_false_iff.1 hnot)]

/-- Blanks are cut off no further than to a character that is not blank. -/
theorem trimEnd_append {cs rest : List Char} {d : Char} (hlast : cs.getLast? = some d)
    (hd : isBlank d = false) : trimEnd (cs ++ rest) = cs ++ trimEnd rest := by
  have hend : cs.reverse.dropWhile isBlank = cs.reverse := by
    rw [← List.head?_reverse] at hlast
    cases hrev : cs.reverse with
    | nil =>
      rw [hrev] at hlast
      cases hlast
    | cons e back =>
      rw [hrev] at hlast
      obtain rfl := Option.some.inj hlast
      rw [List.dropWhile_cons, hd, if_neg Bool.false_ne_true]
  rw [trimEnd, trimEnd, List.reverse_append, List.dropWhile_append]
  split
  · rename_i hnil
    rw [List.isEmpty_iff.1 hnil, hend, List.reverse_reverse]
    exact (List.append_nil cs).symm
  · rw [List.reverse_append, List.reverse_reverse]

theorem trimEnd_eq_self {cs : List Char} {d : Char} (hlast : cs.getLast? = some d)
    (hd : isBlank d = false) : trimEnd cs = cs := by
  rw [← List.append_nil cs]
  exact trimEnd_append hlast hd

/-- Only blanks are cut off. -/
theorem mem_trim {cs : List Char} {c : Char} (hc : c ∈ cs) (hblank : isBlank c = false) :
    c ∈ trim cs := by
  have hdrop : ∀ {ds : List Char}, c ∈ ds → c ∈ ds.dropWhile isBlank := by
    intro ds hds
    induction ds with
    | nil => exact hds
    | cons d ds ih =>
      rw [List.dropWhile_cons]
      split
      · next hd =>
        have hne : c ≠ d := fun heq => Bool.false_ne_true (hblank.symm.trans (heq ▸ hd))
        exact ih ((List.mem_cons.1 hds).resolve_left hne)
      · exact hds
  exact List.mem_reverse.2 (hdrop (List.mem_reverse.2 (hdrop hc)))

theorem trim_append_left {head rest : List Char} {c d : Char} (hhead : head.head? = some c)
    (hlast : head.getLast? = some d) (hc : isBlank c = false) (hd : isBlank d = false) :
    trim (head ++ rest) = head ++ trimEnd rest := by
  have hstart : trimStart (head ++ rest) = head ++ rest := by
    cases head with
    | nil => cases hhead
    | cons e head =>
      obtain rfl := Option.some.inj hhead
      rw [List.cons_append, trimStart, List.dropWhile_cons, hc, if_neg Bool.false_ne_true]
  rw [trim, hstart, trimEnd_append hlast hd]

/-! ## Strings -/

/-- The string without the blanks at its ends. -/
def trimmed (s : String) : String := String.ofList (trim s.toList)

end SchemaMigration.Text
