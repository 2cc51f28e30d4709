import Descent.Text.Offset

/-!
# Bytes and characters

A text that is split after some of its characters can be cut there, at the number of their
bytes.  What is found from that offset on is what the characters behind the split are, and
the slice over the next few of them holds just these.
-/

namespace Descent.Text

/-- How many bytes characters take in a text. -/
def byteCount : List Char → Nat
  | [] => 0
  | c :: rest => c.utf8Size + byteCount rest

theorem byteCount_append (first later : List Char) :
    byteCount (first ++ later) = byteCount first + byteCount later := by
  induction first with
  | nil => simp [byteCount]
  | cons c rest ih => simp only [List.cons_append, byteCount, ih, Nat.add_assoc]

theorem byteCount_eq_zero {cs : List Char} (none : byteCount cs = 0) : cs = [] := by
  cases cs with
  | nil => rfl
  | cons c rest =>
      have bytes := c.utf8Size_pos
      simp [byteCount] at none
      omega

theorem byteCount_eq_utf8ByteSize (cs : List Char) :
    byteCount cs = (String.ofList cs).utf8ByteSize := by
  induction cs with
  | nil => rfl
  | cons c rest ih =>
      rw [← List.singleton_append, String.ofList_append, String.utf8ByteSize_append, ← ih,
        byteCount_append]
      simp [byteCount]

theorem byteCount_toList (text : String) : byteCount text.toList = text.utf8ByteSize := by
  rw [byteCount_eq_utf8ByteSize, String.ofList_toList]

theorem length_le_byteCount (cs : List Char) : cs.length ≤ byteCount cs := by
  induction cs with
  | nil => exact Nat.le_refl 0
  | cons c cs ih =>
      have size := c.utf8Size_pos
      rw [List.length_cons, byteCount]
      omega

/-- Two beginnings of a text that take as many bytes have as many characters. -/
theorem byteCount_take_inj {cs : List Char} {shorter longer : Nat}
    (ordered : shorter ≤ longer) (within : longer ≤ cs.length)
    (same : byteCount (cs.take shorter) = byteCount (cs.take longer)) :
    shorter = longer := by
  obtain ⟨further, rfl⟩ := Nat.le.dest ordered
  rw [List.take_add, byteCount_append] at same
  have nothing : (cs.drop shorter).take further = [] := byteCount_eq_zero (by omega)
  have lengths := congrArg List.length nothing
  rw [List.length_take, List.length_drop, List.length_nil] at lengths
  omega

variable {text : String} {read middle later : List Char}

/-- Behind a character stands another position than in front of it. -/
theorem position_ne_add (offset : Nat) (c : Char) (cs : List Char) :
    (⟨offset⟩ : String.Pos.Raw) ≠ ⟨offset + byteCount (c :: cs)⟩ := by
  intro same
  have bytes := c.utf8Size_pos
  have offsets : offset = offset + byteCount (c :: cs) := congrArg String.Pos.Raw.byteIdx same
  rw [byteCount] at offsets
  omega

theorem utf8GetAux?_append (read later : List Char) (start : Nat) :
    String.Pos.Raw.utf8GetAux? (read ++ later) ⟨start⟩ ⟨start + byteCount read⟩ =
      later.head? := by
  induction read generalizing start with
  | nil =>
      cases later with
      | nil => rfl
      | cons c later => exact if_pos rfl
  | cons c read ih =>
      have onward := ih (start + c.utf8Size)
      rw [Nat.add_assoc] at onward
      exact (if_neg (position_ne_add start c read)).trans onward

theorem charAt?_of_split (split : text.toList = read ++ later) :
    charAt? text (byteCount read) = later.head? := by
  have found := utf8GetAux?_append read later 0
  rw [← split, Nat.zero_add] at found
  exact found

theorem standsAt_of_split (split : text.toList = read ++ later) (expected : List Char) :
    standsAt text (byteCount read) expected = expected.isPrefixOf later := by
  induction expected generalizing read later with
  | nil => simp [standsAt]
  | cons c expected ih =>
      rw [standsAt, charAt?_of_split split]
      cases later with
      | nil => simp
      | cons d later =>
          have further : text.toList = (read ++ [d]) ++ later := by simp [split]
          have onward := ih further
          rw [byteCount_append, byteCount, byteCount, Nat.add_zero] at onward
          by_cases same : d = c
          · rw [← same, onward]
            simp
          · have other : (c == d) = false := beq_eq_false_iff_ne.mpr (Ne.symm same)
            simp [List.isPrefixOf, other, same]

theorem charAt?_of_splits (split : text.toList = read ++ (middle ++ later)) :
    charAt? text (byteCount read + byteCount middle) = later.head? := by
  rw [← List.append_assoc] at split
  rw [← byteCount_append]
  exact charAt?_of_split split

theorem lengthThrough?_of_split (split : text.toList = read ++ (middle ++ later))
    (number : Nat) :
    lengthThrough? text (byteCount read) (byteCount middle) number =
      if number < later.length then some (byteCount (middle ++ later.take (number + 1)))
      else none := by
  induction number generalizing middle later with
  | zero =>
      rw [lengthThrough?, charAt?_of_splits split]
      cases later with
      | nil => rfl
      | cons c later => simp [byteCount_append, byteCount]
  | succ number ih =>
      rw [lengthThrough?, charAt?_of_splits split]
      cases later with
      | nil => rfl
      | cons c later =>
          have further : text.toList = read ++ ((middle ++ [c]) ++ later) := by simp [split]
          have onward := ih further
          rw [byteCount_append, byteCount, byteCount, Nat.add_zero] at onward
          simp [onward]

theorem extract_go₂_append (middle later : List Char) (start : Nat) :
    String.Pos.Raw.extract.go₂ (middle ++ later) ⟨start⟩ ⟨start + byteCount middle⟩ = middle := by
  induction middle generalizing start with
  | nil =>
      cases later with
      | nil => rfl
      | cons c later => exact if_pos rfl
  | cons c middle ih =>
      have onward := ih (start + c.utf8Size)
      rw [Nat.add_assoc] at onward
      exact (if_neg (position_ne_add start c middle)).trans (congrArg (c :: ·) onward)

theorem extract_go₁_append (read later : List Char) (start : Nat) (last : String.Pos.Raw) :
    String.Pos.Raw.extract.go₁ (read ++ later) ⟨start⟩ ⟨start + byteCount read⟩ last =
      String.Pos.Raw.extract.go₂ later ⟨start + byteCount read⟩ last := by
  induction read generalizing start with
  | nil =>
      cases later with
      | nil => rfl
      | cons c later => exact if_pos rfl
  | cons c read ih =>
      have onward := ih (start + c.utf8Size)
      rw [Nat.add_assoc] at onward
      exact (if_neg (position_ne_add start c read)).trans onward

theorem slice_of_split (split : text.toList = read ++ (middle ++ later)) {first last : Nat}
    (inside : Sliceable text first last) (starts : first = byteCount read)
    (ends : last = byteCount read + byteCount middle) :
    slice text first last inside = String.ofList middle := by
  subst starts ends
  change (if byteCount read ≥ byteCount read + byteCount middle then ""
    else String.ofList (String.Pos.Raw.extract.go₁ text.toList 0 ⟨byteCount read⟩
      ⟨byteCount read + byteCount middle⟩)) = String.ofList middle
  rw [split]
  split
  · next empty =>
      have none : byteCount middle = 0 := by
        simp only [ge_iff_le] at empty
        omega
      rw [byteCount_eq_zero none]
  · have skipped := extract_go₁_append read (middle ++ later) 0
      ⟨byteCount read + byteCount middle⟩
    rw [Nat.zero_add, extract_go₂_append middle later] at skipped
    exact congrArg String.ofList skipped

theorem boundary_append (read later : String) : Boundary (read ++ later) read.utf8ByteSize :=
  String.Pos.Raw.isValid_iff_exists_append.mpr ⟨read, later, rfl, rfl⟩

theorem boundary_of_split (split : text.toList = read ++ later) :
    Boundary text (byteCount read) := by
  have spelled : String.ofList read ++ String.ofList later = text := by
    rw [← String.ofList_append, ← split, String.ofList_toList]
  rw [← spelled, byteCount_eq_utf8ByteSize]
  exact boundary_append _ _

end Descent.Text
