/-
PetParadise.Store.Like — SQL's `LIKE`.

A pattern is read once, from left to right, into marks: `%` stands for any
sequence of characters, `_` for any one character, a backslash makes the
character after it stand for itself, and every other character does too (a
backslash that ends the pattern included). Two characters are compared by
`same`, which is left to the collation.

  §1 Patterns   — `pattern`, `matchesMarks` and `like`.
  §2 Substrings — `contains`, and `like_percent_percent`: between two `%` a
                  text without `%`, `_` and backslash is searched for as it
                  stands.
  §3 Marks      — any other text is not: `sample` is a name that the pattern
                  accepts, and `plain_of_contains_sample` says that it
                  contains the text only if the text was plain.
-/
import Mathlib.Data.List.Basic
import Mathlib.Data.List.Infix

namespace PetParadise.Store.Like

/-! ## §1 Patterns -/

/-- One mark of a pattern. -/
inductive Mark where
  | anySequence
  | anyOne
  | literal (c : Char)
  deriving DecidableEq, Repr

/-- The marks of a pattern. -/
def pattern : List Char → List Mark
  | [] => []
  | '\\' :: c :: cs => .literal c :: pattern cs
  | '%' :: cs => .anySequence :: pattern cs
  | '_' :: cs => .anyOne :: pattern cs
  | c :: cs => .literal c :: pattern cs

/-- A character that stands for itself wherever it is in a pattern. -/
def Plain (c : Char) : Prop := c ≠ '%' ∧ c ≠ '_' ∧ c ≠ '\\'

instance (c : Char) : Decidable (Plain c) := inferInstanceAs (Decidable (_ ∧ _))

/-- The test that goes through a text, not through all characters. -/
theorem plain_of_all {q : List Char} (h : q.all (fun c => decide (Plain c)) = true) :
    ∀ c ∈ q, Plain c := by
  simpa using h

section

variable (same : Char → Char → Bool)

/-- Whether a whole text is one that the marks stand for. -/
def matchesMarks : List Mark → List Char → Bool
  | [], text => text.isEmpty
  | .anySequence :: ms, text => text.tails.any (matchesMarks ms)
  | .anyOne :: ms, _ :: text => matchesMarks ms text
  | .literal c :: ms, d :: text => same c d && matchesMarks ms text
  | .anyOne :: _, [] => false
  | .literal _ :: _, [] => false

/-- `text LIKE p`. -/
def like (p text : String) : Bool := matchesMarks same (pattern p.toList) text.toList

/-! ## §2 Substrings -/

/-- Whether a text starts with `q`, character by character. -/
def startsWith : List Char → List Char → Bool
  | [], _ => true
  | c :: cs, d :: ds => same c d && startsWith cs ds
  | _ :: _, [] => false

/-- Whether `q` occurs in a text. -/
def contains (q text : String) : Bool := text.toList.tails.any (startsWith same q.toList)

theorem pattern_cons_of_plain {c : Char} (hc : Plain c) (cs : List Char) :
    pattern (c :: cs) = .literal c :: pattern cs := by
  obtain ⟨hpercent, hunderscore, hbackslash⟩ := hc
  rw [pattern] <;> simp_all

theorem matchesMarks_anySequence (text : List Char) :
    matchesMarks same [.anySequence] text = true := by
  simp only [matchesMarks, List.any_eq_true, List.mem_tails]
  exact ⟨[], List.nil_suffix, rfl⟩

/-- A plain text, then anything. -/
theorem matchesMarks_of_plain {q : List Char} (hq : ∀ c ∈ q, Plain c) (text : List Char) :
    matchesMarks same (pattern (q ++ ['%'])) text = startsWith same q text := by
  induction q generalizing text with
  | nil => exact matchesMarks_anySequence same text
  | cons c cs ih =>
    obtain ⟨hc, hcs⟩ := List.forall_mem_cons.mp hq
    rw [List.cons_append, pattern_cons_of_plain hc]
    cases text with
    | nil => rfl
    | cons d ds => simp only [matchesMarks, startsWith, ih hcs]

theorem like_percent (q text : String) :
    like same ("%" ++ q ++ "%") text =
      text.toList.tails.any (matchesMarks same (pattern (q.toList ++ ['%']))) := by
  have hpattern : pattern ("%" ++ q ++ "%").toList =
      .anySequence :: pattern (q.toList ++ ['%']) := by
    simp [String.toList_append, pattern]
  rw [like, hpattern, matchesMarks]

/-- Between two `%`, a plain text is searched for as it stands. -/
theorem like_percent_percent {q : String} (hq : ∀ c ∈ q.toList, Plain c) (text : String) :
    like same ("%" ++ q ++ "%") text = contains same q text := by
  rw [like_percent, contains, funext (matchesMarks_of_plain same hq)]

/-- An occurrence takes as many characters as the text searched for has. -/
theorem length_le_of_startsWith {q text : List Char} (h : startsWith same q text = true) :
    q.length ≤ text.length := by
  induction q generalizing text with
  | nil => exact Nat.zero_le _
  | cons c cs ih =>
    cases text with
    | nil => simp [startsWith] at h
    | cons d ds =>
      simp only [startsWith, Bool.and_eq_true] at h
      exact Nat.succ_le_succ (ih h.2)

theorem length_le_of_contains {q text : String} (h : contains same q text = true) :
    q.length ≤ text.length := by
  simp only [contains, List.any_eq_true, List.mem_tails] at h
  obtain ⟨tail, htail, hstarts⟩ := h
  exact (length_le_of_startsWith same hstarts).trans htail.length_le

end

/-! ## §3 Marks -/

/-- A text that `%q%` accepts, no longer than `q`: nothing for a `%`, the
letter `a` for a `_`, and the character after a backslash for the two. A
backslash that ends `q` takes the closing `%` with it. -/
def sample : List Char → List Char
  | [] => []
  | ['\\'] => ['%']
  | '\\' :: c :: cs => c :: sample cs
  | '%' :: cs => sample cs
  | '_' :: cs => 'a' :: sample cs
  | c :: cs => c :: sample cs

/-- What is left for the last case of `sample`. -/
theorem plain_of_not_mark {c : Char} {cs : List Char} (hlast : c = '\\' → cs = [] → False)
    (hescape : ∀ d ds, c = '\\' → cs = d :: ds → False) (hpercent : c = '%' → False)
    (hunderscore : c = '_' → False) : Plain c := by
  refine ⟨hpercent, hunderscore, fun hbackslash => ?_⟩
  cases cs with
  | nil => exact hlast hbackslash rfl
  | cons d ds => exact hescape d ds hbackslash rfl

variable {same : Char → Char → Bool}

theorem matchesMarks_sample (hrefl : ∀ c, same c c = true) (q : List Char) :
    matchesMarks same (pattern (q ++ ['%'])) (sample q) = true := by
  fun_induction sample q with
  | case1 => rfl
  | case2 => simp [pattern, matchesMarks, hrefl]
  | case3 c cs ih => simpa [pattern, matchesMarks, hrefl] using ih
  | case4 cs ih =>
    simp only [List.cons_append, pattern, matchesMarks, List.any_eq_true, List.mem_tails]
    exact ⟨_, List.suffix_rfl, ih⟩
  | case5 cs ih => simpa [pattern, matchesMarks] using ih
  | case6 c cs hlast hescape hpercent hunderscore ih =>
    have hc : Plain c := plain_of_not_mark hlast hescape hpercent hunderscore
    simpa [pattern_cons_of_plain hc, matchesMarks, hrefl] using ih

/-- `%q%` accepts its sample. -/
theorem like_sample (hrefl : ∀ c, same c c = true) (q : String) :
    like same ("%" ++ q ++ "%") (String.ofList (sample q.toList)) = true := by
  simp only [like_percent, String.toList_ofList, List.any_eq_true, List.mem_tails]
  exact ⟨_, List.suffix_rfl, matchesMarks_sample hrefl q.toList⟩

theorem length_sample_le (q : List Char) : (sample q).length ≤ q.length := by
  fun_induction sample q <;> simp_all <;> omega

/-- The sample of a text with a mark in it is shorter, or differs where the
mark is. -/
theorem plain_of_startsWith_sample (hunderscore : same '_' 'a' = false)
    (hbackslash : same '\\' '%' = false) {q : List Char}
    (h : startsWith same q (sample q) = true) : ∀ c ∈ q, Plain c := by
  fun_induction sample q with
  | case1 => simp
  | case2 => simp [startsWith, hbackslash] at h
  | case3 c cs _ =>
    have hle := length_le_of_startsWith same h
    have hsample := length_sample_le cs
    simp only [List.length_cons] at hle
    omega
  | case4 cs _ =>
    have hle := length_le_of_startsWith same h
    have hsample := length_sample_le cs
    simp only [List.length_cons] at hle
    omega
  | case5 cs _ => simp [startsWith, hunderscore] at h
  | case6 c cs hlast hescape hpercent hunderscore ih =>
    have hc : Plain c := plain_of_not_mark hlast hescape hpercent hunderscore
    simp only [startsWith, Bool.and_eq_true] at h
    exact List.forall_mem_cons.mpr ⟨hc, ih h.2⟩

theorem plain_of_contains_sample (hunderscore : same '_' 'a' = false)
    (hbackslash : same '\\' '%' = false) {q : String}
    (h : contains same q (String.ofList (sample q.toList)) = true) :
    ∀ c ∈ q.toList, Plain c := by
  simp only [contains, String.toList_ofList, List.any_eq_true, List.mem_tails] at h
  obtain ⟨tail, htail, hstarts⟩ := h
  -- The sample has no room for a proper tail as long as `q`.
  have hlength : (sample q.toList).length ≤ tail.length :=
    (length_sample_le _).trans (length_le_of_startsWith same hstarts)
  rw [htail.eq_of_length_le hlength] at hstarts
  exact plain_of_startsWith_sample hunderscore hbackslash hstarts

end PetParadise.Store.Like
