import Mathlib.Data.List.AList
import Mathlib.Data.List.Infix

/-! # The Go runtime underneath `internal/system`

The dry-run capabilities keep their state in Go maps keyed by path or command
line, hand those maps out through `for k, v := range` copies, and slice their
invocation log.  This module fixes how the three are read here.

A `map[string]V` is an association list with distinct keys (`AList`): `m[k] = v`
is `insert` and `v, ok := m[k]` is `lookup`.  Go ranges over a map in no fixed
order; the copy loop is run in the order of the entries, and what it builds does
not depend on that order, since keys are distinct (`lookup_copy`).  A run-time
panic is `none`: slicing out of bounds (`sliceFrom`) is the one the system
package can reach.

Every DryRun method holds its instance's mutex for its whole body, so
goroutines sharing an instance run its methods one at a time, each goroutine's
calls in its own order: the calls go through in an `Interleaving` of the
goroutines' call sequences.
-/
namespace HomelabHorizon

/-- A Go `map[string]V`. -/
abbrev GoMap (V : Type) := AList (fun _ : String => V)

namespace GoMap
variable {V : Type}

/-- `result := make(map[string]V); for k, v := range m { result[k] = v }`: the
snapshot every DryRun accessor hands back. -/
def copy (m : GoMap V) : GoMap V := m.foldl (fun r k v => r.insert k v) ∅

/-- The copy loop over entries with distinct keys: a key it meets gets that
entry's value, any other key keeps what the target map had. -/
theorem lookup_foldl_insert (k : String) :
    ∀ (l : List (Σ _ : String, V)), l.NodupKeys → ∀ r : GoMap V,
      (l.foldl (fun r s => r.insert s.1 s.2) r).lookup k = (l.dlookup k).or (r.lookup k)
  | [], _, _ => rfl
  | ⟨k', v⟩ :: l, h, r => by
    rw [List.nodupKeys_cons] at h
    rw [List.foldl_cons, lookup_foldl_insert k l h.2]
    by_cases hk : k = k'
    · subst hk
      simp [List.dlookup_eq_none.mpr h.1]
    · simp [hk, List.dlookup_cons_ne l ⟨k', v⟩ hk]

/-- **A snapshot holds what the map holds**, whatever order the loop ran in. -/
@[simp] theorem lookup_copy (m : GoMap V) (k : String) : (copy m).lookup k = m.lookup k := by
  simpa using lookup_foldl_insert k m.entries m.nodupKeys ∅

@[simp] theorem copy_empty : copy (∅ : GoMap V) = ∅ := rfl

/-- The map with `f` applied to every value: how a map of slices reads out of
memory. -/
def mapValues {W : Type} (f : V → W) (m : GoMap V) : GoMap W :=
  ⟨m.entries.map fun e => ⟨e.1, f e.2⟩, by
    simpa only [List.NodupKeys, List.keys, List.map_map] using m.nodupKeys⟩

section mapValues
variable {W : Type} (f : V → W)

@[simp] theorem lookup_mapValues (m : GoMap V) (k : String) :
    (m.mapValues f).lookup k = (m.lookup k).map f :=
  List.dlookup_map₂ (f := fun _ => f) k

theorem kerase_map (k : String) :
    ∀ l : List (Σ _ : String, V),
      (l.kerase k).map (fun e => (⟨e.1, f e.2⟩ : Σ _ : String, W)) =
        (l.map fun e => (⟨e.1, f e.2⟩ : Σ _ : String, W)).kerase k
  | [] => rfl
  | e :: l => by
    by_cases hk : k = e.1
    · rw [List.kerase_cons_eq hk, List.map_cons,
        List.kerase_cons_eq (β := fun _ : String => W) (s := ⟨e.1, f e.2⟩) hk]
    · rw [List.kerase_cons_ne hk, List.map_cons, List.map_cons,
        List.kerase_cons_ne (β := fun _ : String => W) (s := ⟨e.1, f e.2⟩) hk, kerase_map k l]

theorem mapValues_insert (m : GoMap V) (k : String) (v : V) :
    mapValues f (m.insert k v) = (m.mapValues f).insert k (f v) :=
  AList.ext (by simp only [mapValues, AList.insert_entries, List.map_cons, kerase_map])

/-- Values the function cannot tell apart give the same map. -/
theorem mapValues_congr {g : V → W} (m : GoMap V) (h : ∀ k v, m.lookup k = some v → f v = g v) :
    m.mapValues f = m.mapValues g :=
  AList.ext (List.map_congr_left fun e he => by
    rw [h e.1 e.2 (AList.mem_lookup_iff.mpr he)])

theorem copy_mapValues (m : GoMap V) : (copy m).mapValues f = copy (m.mapValues f) := by
  have hfold : ∀ (l : List (Σ _ : String, V)) (r : GoMap V),
      mapValues f (l.foldl (fun r e => r.insert e.1 e.2) r) =
        (l.map fun e => (⟨e.1, f e.2⟩ : Σ _ : String, W)).foldl (fun r e => r.insert e.1 e.2)
          (r.mapValues f) := by
    intro l
    induction l with
    | nil => intro r; rfl
    | cons e l ih =>
      intro r
      rw [List.foldl_cons, ih, mapValues_insert, List.map_cons, List.foldl_cons]
  exact hfold m.entries ∅

end mapValues

end GoMap

/-- `s[low:]` on a Go slice: in bounds when `0 ≤ low ≤ len(s)`, a panic otherwise. -/
def sliceFrom {α : Type} (s : List α) (low : Int) : Option (List α) :=
  if 0 ≤ low ∧ low ≤ s.length then some (s.drop low.toNat) else none

/-- `strings.Contains(s, substr)`.  Both are valid UTF-8 here, so containment of
code points is containment of bytes. -/
def stringsContains (s substr : String) : Bool := decide (substr.data <:+: s.data)

/-! ## Goroutines sharing one mutex -/

/-- `zs` is an order in which a mutex lets through the calls `xs` of one
goroutine and `ys` of another. -/
inductive Interleaving {α : Type} : List α → List α → List α → Prop
  | nil : Interleaving [] [] []
  | left {x : α} {xs ys zs : List α} : Interleaving xs ys zs → Interleaving (x :: xs) ys (x :: zs)
  | right {y : α} {xs ys zs : List α} : Interleaving xs ys zs → Interleaving xs (y :: ys) (y :: zs)

/-- Whether a list has a last element does not depend on its order. -/
theorem isSome_getLast?_of_perm {α : Type} {l l' : List α} (h : l.Perm l') :
    l.getLast?.isSome = l'.getLast?.isSome := by
  rw [Bool.eq_iff_iff, List.getLast?_isSome, List.getLast?_isSome]
  exact ⟨fun hl hl' => hl (hl' ▸ h).eq_nil, fun hl' hl => hl' (hl ▸ h).nil_eq.symm⟩

namespace Interleaving
variable {α β : Type} {xs ys zs : List α}

/-- One goroutine runs to completion before the other starts. -/
theorem append : ∀ xs ys : List α, Interleaving xs ys (xs ++ ys)
  | [], [] => .nil
  | [], _ :: ys => .right (append [] ys)
  | _ :: xs, ys => .left (append xs ys)

/-- Each call of either goroutine goes through exactly once. -/
theorem perm (h : Interleaving xs ys zs) : zs.Perm (xs ++ ys) := by
  induction h with
  | nil => exact .nil
  | left _ ih => exact ih.cons _
  | right _ ih => exact (ih.cons _).trans List.perm_middle.symm

theorem mem_iff (h : Interleaving xs ys zs) {a : α} : a ∈ zs ↔ a ∈ xs ∨ a ∈ ys := by
  rw [h.perm.mem_iff, List.mem_append]

/-- What holds of every call of both goroutines holds of every call let through. -/
theorem forall_mem (h : Interleaving xs ys zs) {p : α → Prop} (hx : ∀ a ∈ xs, p a)
    (hy : ∀ a ∈ ys, p a) : ∀ a ∈ zs, p a :=
  fun a ha => (h.mem_iff.mp ha).elim (hx a) (hy a)

/-- Keeping only some calls, and mapping them, keeps an interleaving. -/
theorem filterMap (f : α → Option β) (h : Interleaving xs ys zs) :
    Interleaving (xs.filterMap f) (ys.filterMap f) (zs.filterMap f) := by
  induction h with
  | nil => exact .nil
  | @left x _ _ _ _ ih =>
    cases hx : f x
    · rwa [List.filterMap_cons_none hx, List.filterMap_cons_none hx]
    · rw [List.filterMap_cons_some hx, List.filterMap_cons_some hx]; exact .left ih
  | @right y _ _ _ _ ih =>
    cases hy : f y
    · rwa [List.filterMap_cons_none hy, List.filterMap_cons_none hy]
    · rw [List.filterMap_cons_some hy, List.filterMap_cons_some hy]; exact .right ih

theorem eq_of_right_nil (h : Interleaving xs [] zs) : zs = xs := by
  generalize hy : ([] : List α) = ys at h
  induction h with
  | nil => rfl
  | left _ ih => rw [ih hy]
  | right _ _ => exact absurd hy (List.cons_ne_nil _ _).symm

theorem eq_of_left_nil (h : Interleaving [] ys zs) : zs = ys := by
  generalize hx : ([] : List α) = xs at h
  induction h with
  | nil => rfl
  | left _ _ => exact absurd hx (List.cons_ne_nil _ _).symm
  | right _ ih => rw [ih hx]

/-- The last call let through is one goroutine's last: as when that goroutine
ran second. -/
theorem getLast?_eq (h : Interleaving xs ys zs) :
    zs.getLast? = (xs ++ ys).getLast? ∨ zs.getLast? = (ys ++ xs).getLast? := by
  simp only [List.getLast?_append]
  induction h with
  | nil => exact Or.inl rfl
  | @left _ as bs _ _ ih =>
    -- the other goroutine's last call, if it made one, stays last
    simp only [List.getLast?_cons]
    rcases ih with hz | hz <;> rw [hz]
    · cases bs.getLast? <;> simp
    · cases as.getLast? <;> cases bs.getLast? <;> simp
  | @right _ as bs _ _ ih =>
    simp only [List.getLast?_cons]
    rcases ih with hz | hz <;> rw [hz]
    · cases bs.getLast? <;> cases as.getLast? <;> simp
    · cases as.getLast? <;> simp

/-- The last of the calls `f` sees after a common prefix: as when one or the
other goroutine ran second. -/
theorem getLast?_filterMap_or (h : Interleaving xs ys zs) (pre : List α) (f : α → Option β) :
    ((pre ++ zs).filterMap f).getLast? = ((pre ++ (xs ++ ys)).filterMap f).getLast? ∨
      ((pre ++ zs).filterMap f).getLast? = ((pre ++ (ys ++ xs)).filterMap f).getLast? := by
  simp only [List.filterMap_append, List.getLast?_append]
  rcases (h.filterMap f).getLast?_eq with e | e <;> rw [e, List.getLast?_append]
  · exact Or.inl rfl
  · exact Or.inr rfl

/-- **Calls that only one goroutine makes keep their order.**  When `f` sees
the calls of at most one of the two goroutines, it sees the same calls in the
same order whatever the interleaving. -/
theorem filterMap_eq (h : Interleaving xs ys zs) (f : α → Option β)
    (hf : xs.filterMap f = [] ∨ ys.filterMap f = []) :
    zs.filterMap f = (xs ++ ys).filterMap f := by
  have hI := h.filterMap f
  rw [List.filterMap_append]
  rcases hf with hx | hy
  · rw [hx] at hI ⊢
    exact hI.eq_of_left_nil
  · rw [hy] at hI ⊢
    rw [List.append_nil]
    exact hI.eq_of_right_nil

/-- The last of the calls `f` sees, after a common prefix: as when one
goroutine runs after the other, if only one of them makes such calls. -/
theorem getLast?_filterMap (h : Interleaving xs ys zs) (pre : List α) (f : α → Option β)
    (hf : (xs.filterMap f).getLast? = none ∨ (ys.filterMap f).getLast? = none) :
    ((pre ++ zs).filterMap f).getLast? = ((pre ++ (xs ++ ys)).filterMap f).getLast? := by
  simp only [List.getLast?_eq_none_iff] at hf
  rw [List.filterMap_append, List.filterMap_append, h.filterMap_eq f hf]

end Interleaving

end HomelabHorizon
