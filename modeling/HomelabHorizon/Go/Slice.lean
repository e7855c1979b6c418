import HomelabHorizon.Go

/-! # Go slices over their backing arrays

The runner's invocation log is a `[]string` that `GetRunCommands` and
`GetLastCommands` hand out as it is, and the dry-run filesystem keeps and hands
back the `[]byte` values its callers pass it.  What a caller holding such a
slice then sees depends on Go's slice semantics, which this module fixes.

A slice is a window on a backing array: the array, where the window starts,
how many elements it shows (`len`) and how far it may grow in place (`cap`).
Slices cut from one another share their array, so a write through one is seen
through all.  The heap holds the backing arrays made so far, each as long as
its capacity, at the addresses `0 … next - 1`; nothing is moved or freed.

`append` writes in place while `len < cap`.  Otherwise it copies the elements
into a new array whose capacity the runtime picks (`GrowthPolicy`), and every
result here holds whatever that capacity is.
-/
namespace HomelabHorizon

/-- The backing arrays of the slices of one element type made so far. -/
structure Heap (α : Type) where
  arrays : Nat → List α
  next : Nat

namespace Heap
variable {α : Type} (h : Heap α)

/-- `arr[i] = x` on backing array `a`. -/
def store (a i : Nat) (x : α) : Heap α :=
  { h with arrays := Function.update h.arrays a ((h.arrays a).set i x) }

/-- A new backing array, made at `next`. -/
def alloc (arr : List α) : Heap α := ⟨Function.update h.arrays h.next arr, h.next + 1⟩

@[simp] theorem store_next (a i : Nat) (x : α) : (h.store a i x).next = h.next := rfl

@[simp] theorem alloc_next (arr : List α) : (h.alloc arr).next = h.next + 1 := rfl

theorem arrays_store (a i : Nat) (x : α) (b : Nat) :
    (h.store a i x).arrays b = if b = a then (h.arrays a).set i x else h.arrays b := by
  simp only [store, Function.update_apply]

@[simp] theorem length_arrays_store (a i : Nat) (x : α) (b : Nat) :
    ((h.store a i x).arrays b).length = (h.arrays b).length := by
  rw [arrays_store]
  split_ifs with hb
  · rw [List.length_set, hb]
  · rfl

theorem arrays_alloc_of_lt (arr : List α) {b : Nat} (hb : b < h.next) :
    (h.alloc arr).arrays b = h.arrays b :=
  Function.update_noteq (Nat.ne_of_lt hb) _ _

@[simp] theorem arrays_alloc_next (arr : List α) : (h.alloc arr).arrays h.next = arr :=
  Function.update_same _ _ _

/-- `h` holds every array of `h0` as it was, and perhaps more: what a run that
only makes arrays and writes the ones it made leaves of the arrays before it. -/
structure Extends (h0 h : Heap α) : Prop where
  next_le : h0.next ≤ h.next
  arrays_eq : ∀ a < h0.next, h.arrays a = h0.arrays a

namespace Extends
variable {h} {h0 h' : Heap α}

theorem refl : Extends h h := ⟨le_refl _, fun _ _ => rfl⟩

theorem trans (he : Extends h0 h) (he' : Extends h h') : Extends h0 h' :=
  ⟨he.next_le.trans he'.next_le, fun a ha =>
    (he'.arrays_eq a (Nat.lt_of_lt_of_le ha he.next_le)).trans (he.arrays_eq a ha)⟩

theorem alloc (he : Extends h0 h) (arr : List α) : Extends h0 (h.alloc arr) :=
  ⟨Nat.le_succ_of_le he.next_le, fun a ha =>
    (h.arrays_alloc_of_lt arr (Nat.lt_of_lt_of_le ha he.next_le)).trans (he.arrays_eq a ha)⟩

/-- A write to an array made after `h0`. -/
theorem store (he : Extends h0 h) {a : Nat} (ha : h0.next ≤ a) (i : Nat) (x : α) :
    Extends h0 (h.store a i x) :=
  ⟨he.next_le, fun b hb => by
    rw [h.arrays_store, if_neg (by omega), he.arrays_eq b hb]⟩

end Extends

end Heap

/-- A slice value: which backing array, where the window starts, its length
and its capacity. -/
structure Slice where
  arr : Nat
  off : Nat
  len : Nat
  cap : Nat
  deriving DecidableEq, Repr

/-- The capacity `runtime.growslice` gives a full slice that `append` grows:
more than it had. -/
structure GrowthPolicy where
  newCap : Nat → Nat
  lt_newCap : ∀ c, c < newCap c

/-- Go's policy for the small slices the tests make: double, from one. -/
def GrowthPolicy.doubling : GrowthPolicy :=
  ⟨fun c => max (2 * c) (c + 1), fun c => Nat.lt_of_lt_of_le (Nat.lt_succ_self c) (le_max_right _ _)⟩

namespace Slice
variable {α : Type} (g : GrowthPolicy) (h : Heap α)

/-- The elements a slice shows. -/
def view (s : Slice) : List α := ((h.arrays s.arr).drop s.off).take s.len

/-- What the runtime keeps true of every slice: its array has been made, and
the window fits in it up to the capacity. -/
structure InBounds (s : Slice) : Prop where
  arr_lt : s.arr < h.next
  len_le_cap : s.len ≤ s.cap
  cap_fits : s.off + s.cap ≤ (h.arrays s.arr).length

/-- `make([]T, 0)`. -/
def make : Heap α × Slice := (h.alloc [], ⟨h.next, 0, 0, 0⟩)

/-- A new slice holding exactly `data`, as a conversion or `os.ReadFile` makes. -/
def ofList (data : List α) : Heap α × Slice := (h.alloc data, ⟨h.next, 0, data.length, data.length⟩)

/-- `append(s, x)`: in place while `len < cap`, else into a new array of the
capacity the runtime picks, holding the elements, then `x`, then zero values. -/
def append [Inhabited α] (s : Slice) (x : α) : Heap α × Slice :=
  if s.len < s.cap then (h.store s.arr (s.off + s.len) x, { s with len := s.len + 1 })
  else
    let cap := g.newCap s.cap
    (h.alloc (s.view h ++ x :: List.replicate (cap - (s.len + 1)) default),
      ⟨h.next, 0, s.len + 1, cap⟩)

/-- `s[low:]`, a panic unless `0 ≤ low ≤ len(s)`. -/
def sliceFrom (s : Slice) (low : Int) : Option Slice :=
  if 0 ≤ low ∧ low ≤ s.len then
    some ⟨s.arr, s.off + low.toNat, s.len - low.toNat, s.cap - low.toNat⟩
  else none

/-- `var s []T`, the nil slice: no array, no room, so that `append` makes one. -/
def nil : Slice := ⟨0, 0, 0, 0⟩

/-- `s[:0]`. -/
def truncate (s : Slice) : Slice := { s with len := 0 }

/-- `s[i] = x`, a panic unless `i < len(s)`. -/
def set (s : Slice) (i : Nat) (x : α) : Option (Heap α) :=
  if i < s.len then some (h.store s.arr (s.off + i) x) else none

/-! ## Staying in bounds -/

namespace InBounds
variable {g h} {s t : Slice}

theorem view_length (hs : InBounds h s) : (s.view h).length = s.len := by
  simp only [view, List.length_take, List.length_drop]
  have := hs.len_le_cap
  have := hs.cap_fits
  omega

theorem store (hs : InBounds h s) (a i : Nat) (x : α) : InBounds (h.store a i x) s :=
  ⟨hs.arr_lt, hs.len_le_cap, by rw [Heap.length_arrays_store]; exact hs.cap_fits⟩

theorem alloc (hs : InBounds h s) (arr : List α) : InBounds (h.alloc arr) s :=
  ⟨Nat.lt_succ_of_lt hs.arr_lt, hs.len_le_cap, by
    rw [Heap.arrays_alloc_of_lt _ _ hs.arr_lt]; exact hs.cap_fits⟩

theorem truncate (hs : InBounds h s) : InBounds h s.truncate :=
  ⟨hs.arr_lt, Nat.zero_le _, hs.cap_fits⟩

theorem «extends» {h0 : Heap α} (hs : InBounds h0 s) (he : h0.Extends h) : InBounds h s :=
  ⟨Nat.lt_of_lt_of_le hs.arr_lt he.next_le, hs.len_le_cap, by
    rw [he.arrays_eq _ hs.arr_lt]; exact hs.cap_fits⟩

/-- `append` keeps every slice made before it in bounds. -/
theorem append_other [Inhabited α] (ht : InBounds h t) (s : Slice) (x : α) :
    InBounds (append g h s x).1 t := by
  unfold append
  split_ifs
  · exact ht.store _ _ _
  · exact ht.alloc _

/-- `append` returns a slice in bounds. -/
theorem append [Inhabited α] (hs : InBounds h s) (x : α) :
    InBounds (Slice.append g h s x).1 (Slice.append g h s x).2 := by
  unfold Slice.append
  split_ifs with hlt
  · exact ⟨hs.arr_lt, hlt, by rw [Heap.length_arrays_store]; exact hs.cap_fits⟩
  · have hcap := g.lt_newCap s.cap
    have hlen := hs.len_le_cap
    refine ⟨Nat.lt_succ_self _, Nat.succ_le_of_lt (Nat.lt_of_le_of_lt hlen hcap), ?_⟩
    simp only [Heap.arrays_alloc_next, List.length_append, List.length_cons,
      List.length_replicate, hs.view_length]
    omega

/-- A write through any slice keeps every slice in bounds. -/
theorem set (ht : InBounds h t) {i : Nat} {x : α} {h' : Heap α} (hs : s.set h i x = some h') :
    InBounds h' t := by
  unfold Slice.set at hs
  split_ifs at hs
  cases hs
  exact ht.store _ _ _

theorem sliceFrom (hs : InBounds h s) {low : Int} {t : Slice} (ht : s.sliceFrom low = some t) :
    InBounds h t := by
  unfold Slice.sliceFrom at ht
  split_ifs at ht with hlow
  cases ht
  have := hs.len_le_cap
  have := hs.cap_fits
  exact ⟨hs.arr_lt, by dsimp only; omega, by dsimp only; omega⟩

end InBounds

theorem inBounds_make : InBounds (make h).1 (make h).2 :=
  ⟨Nat.lt_succ_self _, le_refl _, Nat.zero_le _⟩

theorem inBounds_ofList (data : List α) : InBounds (ofList h data).1 (ofList h data).2 :=
  ⟨Nat.lt_succ_self _, le_refl _, by simp [ofList]⟩

theorem view_ofList (data : List α) : (ofList h data).2.view (ofList h data).1 = data := by
  simp [ofList, view]

/-! ## Where `append` writes -/

/-- `t` ends where `s` ends or before, if the two share an array: a write past
the end of `s` misses `t`. -/
def EndsBy (t s : Slice) : Prop := t.arr = s.arr → t.off + t.len ≤ s.off + s.len

variable {g h}

theorem append_of_lt [Inhabited α] {s : Slice} (hlt : s.len < s.cap) (x : α) :
    append g h s x = (h.store s.arr (s.off + s.len) x, { s with len := s.len + 1 }) :=
  if_pos hlt

/-- `append` keeps the slice's array or moves it to a new one. -/
theorem arr_append [Inhabited α] (s : Slice) (x : α) :
    (append g h s x).2.arr = s.arr ∨ (append g h s x).2.arr = h.next := by
  unfold append
  split_ifs
  · exact .inl rfl
  · exact .inr rfl

/-- A slice that ends by `s` ends by what `append` makes of `s`: the window
grew, or moved to a new array. -/
theorem EndsBy.append [Inhabited α] {s t : Slice} (ht : InBounds h t) (hts : EndsBy t s) (x : α) :
    EndsBy t (append g h s x).2 := by
  unfold Slice.append
  split_ifs
  · intro ha
    have := hts ha
    dsimp only
    omega
  · intro ha
    exact absurd ha (Nat.ne_of_lt ht.arr_lt)

/-! ## What a slice shows -/

theorem view_store_of_ne {s : Slice} {a : Nat} (ha : a ≠ s.arr) (i : Nat) (x : α) :
    s.view (h.store a i x) = s.view h := by
  simp only [view, Heap.arrays_store, if_neg (Ne.symm ha)]

/-- A write to a slice's own array, at or after its start: the element at
that distance, if the window reaches it. -/
theorem view_store_same {s : Slice} {i : Nat} (hi : s.off ≤ i) (x : α) :
    s.view (h.store s.arr i x) = (s.view h).set (i - s.off) x := by
  simp only [view, Heap.arrays_store, if_true, List.drop_set, if_neg (Nat.not_lt.mpr hi),
    List.set_take]

theorem view_alloc {s : Slice} (hs : s.arr < h.next) (arr : List α) :
    s.view (h.alloc arr) = s.view h := by
  simp only [view, Heap.arrays_alloc_of_lt _ _ hs]

theorem view_truncate (s : Slice) : s.truncate.view h = [] := List.take_zero _

theorem view_extends {h0 : Heap α} {s : Slice} (hs : s.arr < h0.next) (he : h0.Extends h) :
    s.view h = s.view h0 := by
  simp only [view, he.arrays_eq _ hs]

/-- **`append` adds the element to what the slice shows.** -/
theorem view_append [Inhabited α] {s : Slice} (hs : InBounds h s) (x : α) :
    (append g h s x).2.view (append g h s x).1 = s.view h ++ [x] := by
  have hv := hs.view_length
  unfold append
  split_ifs with hlt
  · -- in place: the element past the window becomes `x`
    have hrest : s.len < ((h.arrays s.arr).drop s.off).length := by
      have := hs.cap_fits
      rw [List.length_drop]
      omega
    have hgrow := view_store_same (h := h) (s := { s with len := s.len + 1 })
      (Nat.le_add_right s.off s.len) x
    dsimp only at hgrow ⊢
    rw [hgrow, Nat.add_sub_cancel_left]
    simp only [view] at hv ⊢
    rw [List.take_succ, List.getElem?_eq_getElem hrest, Option.toList_some, List.set_append, hv,
      if_neg (lt_irrefl _), Nat.sub_self]
    rfl
  · -- a new array: the elements, then `x`
    simp only [view, Heap.arrays_alloc_next, List.drop_zero, List.take_append_eq_append_take]
    simp only [view] at hv
    rw [List.take_of_length_le (by omega), hv, Nat.add_sub_cancel_left]
    rfl

/-- **`append` changes nothing another slice shows** when that slice ends
where the appended one does or before, on the same array, or lies on another. -/
theorem view_append_other [Inhabited α] {s t : Slice} (ht : InBounds h t) (hsep : EndsBy t s)
    (x : α) :
    t.view (append g h s x).1 = t.view h := by
  unfold append
  split_ifs
  · by_cases ha : t.arr = s.arr
    · have hle := hsep ha
      have hoff : t.off ≤ s.off + s.len := by omega
      have hview : (t.view h).length ≤ s.off + s.len - t.off := by rw [ht.view_length]; omega
      rw [← ha, view_store_same hoff, List.set_eq_of_length_le hview]
    · exact view_store_of_ne (Ne.symm ha) _ _
  · exact view_alloc ht.arr_lt _

/-- `s[low:]` shows the slice's elements from `low` on, and panics where the
list slice does. -/
theorem view_sliceFrom {s : Slice} (hs : InBounds h s) (low : Int) :
    (s.sliceFrom low).map (view h) = HomelabHorizon.sliceFrom (s.view h) low := by
  unfold sliceFrom HomelabHorizon.sliceFrom
  rw [hs.view_length]
  split_ifs
  · simp only [Option.map_some', view, List.drop_take, List.drop_drop, Nat.add_comm]
  · rfl

/-- `s[i] = x` writes the `i`-th element the slice shows. -/
theorem view_set {s : Slice} {i : Nat} (hi : i < s.len) (x : α) :
    (s.set h i x).map s.view = some ((s.view h).set i x) := by
  simp only [set, if_pos hi, Option.map_some', view_store_same (Nat.le_add_right _ _),
    Nat.add_sub_cancel_left]

/-! ## Slices of one's own -/

/-- `s` was made since `h0`: it is nil, or on an array made after `h0`, where
nothing made before reaches it. -/
def MadeSince (h0 h : Heap α) (s : Slice) : Prop := s = nil ∨ (InBounds h s ∧ h0.next ≤ s.arr)

theorem append_nil [Inhabited α] (x : α) :
    append g h nil x =
      (h.alloc (x :: List.replicate (g.newCap 0 - 1) default), ⟨h.next, 0, 1, g.newCap 0⟩) := by
  simp [append, nil, view]

/-- **`append` to a slice made since `h0`** writes only arrays made since
`h0`, adds the element, and gives a slice made since `h0`. -/
theorem MadeSince.append [Inhabited α] {h0 : Heap α} {s : Slice} (he : h0.Extends h)
    (hs : MadeSince h0 h s) (x : α) :
    h0.Extends (append g h s x).1 ∧ MadeSince h0 (append g h s x).1 (append g h s x).2 ∧
      (append g h s x).2.view (append g h s x).1 = s.view h ++ [x] := by
  rcases hs with rfl | ⟨hs, hle⟩
  · -- the nil slice gets an array of its own
    have hcap := g.lt_newCap 0
    rw [append_nil]
    refine ⟨he.alloc _, .inr ⟨⟨Nat.lt_succ_self _, hcap, ?_⟩, he.next_le⟩, ?_⟩
    · simp only [Heap.arrays_alloc_next, List.length_cons, List.length_replicate]
      omega
    · simp [view, nil]
  · refine ⟨?_, .inr ⟨hs.append x, ?_⟩, view_append hs x⟩
    · unfold Slice.append
      split_ifs
      · exact he.store hle _ _
      · exact he.alloc _
    · rcases arr_append s x with ha | ha <;> rw [ha]
      exacts [hle, he.next_le]

end Slice

end HomelabHorizon
