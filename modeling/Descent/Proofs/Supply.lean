import Mathlib.Data.List.Basic

/-!
# Supplies

A supply is a row of items that need not have an end.  Each item is found under its number,
and where one is missing so are all after it.  A list is a supply that ends; what stands in
front of a number, or between two numbers, is a list again.
-/

namespace Descent

/-- Items by their numbers, without gaps. -/
structure Supply (α : Type) where
  item? : Nat → Option α
  ends : ∀ number, item? number = none → item? (number + 1) = none

namespace Supply

variable {α : Type}

instance : GetElem? (Supply α) Nat α fun supply number => (supply.item? number).isSome where
  getElem supply number present := (supply.item? number).get present
  getElem? supply number := supply.item? number

/-- The items of a list. -/
def ofList (items : List α) : Supply α where
  item? number := items[number]?
  ends number missing := by
    rw [List.getElem?_eq_none_iff] at missing ⊢
    exact Nat.le_succ_of_le missing

/-- No items. -/
def nil : Supply α := ⟨fun _ => none, fun _ _ => rfl⟩

/-- The items from a number on. -/
def drop (supply : Supply α) (count : Nat) : Supply α :=
  ⟨fun number => supply[count + number]?, fun number => supply.ends (count + number)⟩

/-- The items in front of a number. -/
def take (supply : Supply α) (count : Nat) : List α := (List.range count).filterMap (supply[·]?)

/-- The items from one number to another. -/
def extract (supply : Supply α) (first last : Nat) : List α :=
  (supply.drop first).take (last - first)

/-- There are at least so many items. -/
def Reaches (supply : Supply α) (count : Nat) : Prop :=
  ∀ number < count, supply[number]?.isSome = true

/-- Some items and then those of a supply. -/
def append (items : List α) (later : Supply α) : Supply α where
  item? number := if number < items.length then items[number]? else later[number - items.length]?
  ends number missing := by
    by_cases within : number < items.length
    · rw [if_pos within, List.getElem?_eq_none_iff] at missing
      exact absurd within (Nat.not_lt_of_le missing)
    · rw [if_neg within] at missing
      have onward : number + 1 - items.length = number - items.length + 1 := by omega
      rw [if_neg (by omega), onward]
      exact later.ends _ missing

instance : HAppend (List α) (Supply α) (Supply α) := ⟨append⟩

variable {supply other later : Supply α} {items : List α} {count number : Nat} {item : α}

@[ext]
theorem ext_getElem? (same : ∀ number : Nat, supply[number]? = other[number]?) :
    supply = other := by
  obtain ⟨first, _⟩ := supply
  obtain ⟨second, _⟩ := other
  obtain rfl : first = second := funext same
  rfl

@[simp]
theorem getElem?_ofList (items : List α) (number : Nat) :
    (ofList items)[number]? = items[number]? := rfl

@[simp]
theorem getElem?_nil (number : Nat) : (nil : Supply α)[number]? = none := rfl

@[simp]
theorem getElem?_drop (supply : Supply α) (count number : Nat) :
    (supply.drop count)[number]? = supply[count + number]? := rfl

theorem getElem?_append (items : List α) (later : Supply α) (number : Nat) :
    (items ++ later)[number]? =
      if number < items.length then items[number]? else later[number - items.length]? := rfl

theorem getElem?_append_left (within : number < items.length) :
    (items ++ later)[number]? = items[number]? := by
  rw [getElem?_append, if_pos within]

theorem getElem?_append_right (beyond : items.length ≤ number) :
    (items ++ later)[number]? = later[number - items.length]? := by
  rw [getElem?_append, if_neg (Nat.not_lt_of_le beyond)]

theorem getElem?_eq_none_of_le (missing : supply[count]? = none) (beyond : count ≤ number) :
    supply[number]? = none := by
  obtain ⟨further, rfl⟩ := Nat.le.dest beyond
  clear beyond
  induction further with
  | zero => exact missing
  | succ further ih => exact supply.ends _ ih

theorem isSome_getElem?_of_le (present : supply[count]?.isSome = true) (before : number ≤ count) :
    supply[number]?.isSome = true := by
  rw [Option.isSome_iff_ne_none] at present ⊢
  intro missing
  exact present (getElem?_eq_none_of_le missing before)

/-- Where one item is, there are all before it. -/
theorem reaches_succ_iff : supply.Reaches (count + 1) ↔ supply[count]?.isSome = true := by
  constructor
  · intro reaches
    exact reaches count (Nat.lt_succ_self count)
  · intro present number below
    exact isSome_getElem?_of_le present (Nat.le_of_lt_succ below)

theorem le_of_reaches {last : Nat} (reaches : supply.Reaches count)
    (missing : supply[last]? = none) : count ≤ last := by
  by_contra beyond
  have present := reaches last (Nat.lt_of_not_le beyond)
  rw [missing] at present
  cases present

theorem reaches_zero (supply : Supply α) : supply.Reaches 0 := nofun

theorem reaches_cons : ([item] ++ later : Supply α).Reaches (count + 1) ↔ later.Reaches count := by
  constructor
  · intro reaches number below
    have present := reaches (number + 1) (Nat.succ_lt_succ below)
    rwa [getElem?_append_right (Nat.le_add_left 1 number)] at present
  · intro reaches number below
    cases number with
    | zero => rfl
    | succ number =>
        rw [getElem?_append_right (Nat.le_add_left 1 number)]
        exact reaches number (Nat.lt_of_succ_lt_succ below)

theorem eq_nil_iff : supply = nil ↔ supply[0]? = none := by
  constructor
  · rintro rfl
    rfl
  · intro missing
    ext1 number
    exact getElem?_eq_none_of_le missing (Nat.zero_le number)

theorem nil_append (later : Supply α) : ([] : List α) ++ later = later := rfl

theorem append_assoc (first second : List α) (later : Supply α) :
    (first ++ second) ++ later = first ++ (second ++ later) := by
  ext1 number
  by_cases inFirst : number < first.length
  · have inBoth : number < (first ++ second).length := by
      rw [List.length_append]
      omega
    rw [getElem?_append_left inBoth, getElem?_append_left inFirst,
      List.getElem?_append_left inFirst]
  · have beyond : first.length ≤ number := Nat.le_of_not_lt inFirst
    have within : number < first.length + second.length ↔
        number - first.length < second.length := by omega
    rw [getElem?_append_right beyond, getElem?_append, getElem?_append, List.length_append,
      List.getElem?_append_right beyond, Nat.sub_sub]
    simp only [within]

theorem ofList_append (first second : List α) :
    ofList (first ++ second) = first ++ ofList second := by
  ext1 number
  rw [getElem?_ofList, getElem?_append, getElem?_ofList, List.getElem?_append]

theorem ofList_inj {first second : List α} (same : ofList first = ofList second) :
    first = second := by
  apply List.ext_getElem?
  intro number
  exact congrArg (fun supply : Supply α => supply[number]?) same

theorem append_nil (items : List α) : items ++ (nil : Supply α) = ofList items := by
  have whole := ofList_append items []
  rw [List.append_nil] at whole
  exact whole.symm

theorem ofList_eq_nil_iff : ofList items = nil ↔ items = [] := by
  rw [eq_nil_iff, getElem?_ofList, List.getElem?_eq_none_iff, Nat.le_zero, List.length_eq_zero_iff]

theorem eq_nil_of_append_eq_nil (empty : items ++ later = nil) : items = [] := by
  by_contra filled
  have within : 0 < items.length := List.length_pos_iff.mpr filled
  have first := eq_nil_iff.mp empty
  rw [getElem?_append_left within, List.getElem?_eq_none_iff] at first
  omega

theorem drop_append (items : List α) (later : Supply α) :
    (items ++ later).drop items.length = later := by
  ext1 number
  rw [getElem?_drop, getElem?_append_right (Nat.le_add_right _ _), Nat.add_sub_cancel_left]

theorem drop_drop (supply : Supply α) (first second : Nat) :
    (supply.drop first).drop second = supply.drop (first + second) := by
  ext1 number
  rw [getElem?_drop, getElem?_drop, getElem?_drop, Nat.add_assoc]

/-- A supply begins with its first item. -/
theorem eq_cons (first : supply[0]? = some item) : supply = [item] ++ supply.drop 1 := by
  ext1 number
  cases number with
  | zero => exact first
  | succ number =>
      rw [getElem?_append_right (Nat.le_add_left 1 number), getElem?_drop, List.length_singleton,
        Nat.add_sub_cancel, Nat.add_comm]

theorem take_add (supply : Supply α) (first second : Nat) :
    supply.take (first + second) = supply.take first ++ (supply.drop first).take second := by
  rw [take, List.range_add, List.filterMap_append, List.filterMap_map]
  rfl

theorem take_congr (same : ∀ number < count, supply[number]? = other[number]?) :
    supply.take count = other.take count :=
  List.filterMap_congr fun number member => same number (List.mem_range.mp member)

theorem take_one (supply : Supply α) : supply.take 1 = supply[0]?.toList := by
  rw [take, List.range_one]
  cases first : supply[0]? <;> simp [first]

theorem length_take_of_reaches (reaches : supply.Reaches count) :
    (supply.take count).length = count := by
  induction count with
  | zero => rfl
  | succ count ih =>
      obtain ⟨item, last⟩ := Option.isSome_iff_exists.mp (reaches count (Nat.lt_succ_self count))
      have before := ih fun number below => reaches number (Nat.lt_succ_of_lt below)
      rw [take_add, take_one, getElem?_drop, Nat.add_zero, last, List.length_append, before]
      rfl

/-- The items in front of a number are found under their numbers. -/
theorem getElem?_take (supply : Supply α) (count number : Nat) :
    (supply.take count)[number]? = if number < count then supply[number]? else none := by
  induction count with
  | zero => rfl
  | succ count ih =>
      rw [take_add, take_one, getElem?_drop, Nat.add_zero]
      cases last : supply[count]? with
      | none =>
          rw [Option.toList_none, List.append_nil, ih]
          by_cases here : number = count
          · subst here
            simp [last]
          · have same : number < count + 1 ↔ number < count := by omega
            simp only [same]
      | some item =>
          have reaches : supply.Reaches (count + 1) := reaches_succ_iff.mpr (by rw [last]; rfl)
          have length := length_take_of_reaches fun number below =>
            reaches number (Nat.lt_succ_of_lt below)
          rw [Option.toList_some, List.getElem?_append, length, ih]
          by_cases below : number < count
          · simp [below, Nat.lt_succ_of_lt below]
          · by_cases here : number = count
            · subst here
              simp [last]
            · have beyond : ¬number < count + 1 := by omega
              have after : number - count ≠ 0 := by omega
              simp [below, beyond, after]

theorem take_append (items : List α) (later : Supply α) (count : Nat) :
    (items ++ later).take (items.length + count) = items ++ later.take count := by
  have whole : (items ++ later).take items.length = items := by
    apply List.ext_getElem?
    intro number
    rw [getElem?_take]
    split
    · next within => exact getElem?_append_left within
    · next beyond => exact (List.getElem?_eq_none (Nat.le_of_not_lt beyond)).symm
  rw [take_add, whole, drop_append]

theorem take_nil (count : Nat) : (nil : Supply α).take count = [] :=
  List.filterMap_eq_nil_iff.mpr fun _ _ => rfl

theorem length_take_le (supply : Supply α) (count : Nat) : (supply.take count).length ≤ count := by
  have kept := List.length_filterMap_le (supply[·]?) (List.range count)
  rwa [List.length_range] at kept

theorem take_prefix (supply : Supply α) {shorter longer : Nat} (ordered : shorter ≤ longer) :
    supply.take shorter <+: supply.take longer := by
  obtain ⟨further, rfl⟩ := Nat.le.dest ordered
  rw [take_add]
  exact List.prefix_append _ _

theorem take_ofList (items : List α) (count : Nat) :
    (ofList items).take count = items.take count := by
  apply List.ext_getElem?
  intro number
  rw [getElem?_take, List.getElem?_take]
  rfl

theorem drop_ofList (items : List α) (count : Nat) :
    (ofList items).drop count = ofList (items.drop count) := by
  ext1 number
  rw [getElem?_drop, getElem?_ofList, getElem?_ofList, List.getElem?_drop]

theorem extract_ofList (items : List α) (first last : Nat) :
    (ofList items).extract first last = items.extract first last := by
  rw [extract, drop_ofList, take_ofList, List.extract_eq_take_drop]

end Supply

end Descent
