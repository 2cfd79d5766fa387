import Mathlib.Data.List.Nodup
import ProcessEvents.Dict

/-
  This file relates a dictionary to the list of entries that
  it has been made of.

  Key theorems include:
    * `Dict.get?_ofList`
    * `Dict.get?_ofList_of_nodup`
    * `Dict.ofList_entries`
    * `Dict.entries_insert_perm`
    * `Dict.getD_update`
    * `Dict.get?_foldl_update_empty`
    * `Dict.mem_keys_foldl_update`
    * `Dict.ext_of_keys`
-/

namespace ProcessEvents

namespace Dict

variable {β : Type}

/- Of entries with one key that are put in turn, the last one stays. -/
theorem get?_ofList
    (l : List (String × β)) (k : String) :
    (ofList l).get? k = (l.reverse.find? fun e => e.1 == k).map (·.2) := by
  have hFold : ∀ d : Dict β,
      (l.foldl (fun d e => d.insert e.1 e.2) d).get? k =
        ((l.reverse.find? fun e => e.1 == k).map (·.2)).or (d.get? k) := by
    induction l with
    | nil => exact fun _ => rfl
    | cons e rest ih =>
        intro d
        rw [List.foldl_cons, ih, get?_insert,
          List.reverse_cons, List.find?_append]
        cases rest.reverse.find? fun e => e.1 == k with
        | some _ => rfl
        | none =>
            by_cases hKey : k = e.1
            · simp [hKey]
            · simp [hKey, Ne.symm hKey]
  rw [ofList, hFold, get?_empty, Option.or_none]

/- If no two entries share a key, then their order does not matter. -/
theorem get?_ofList_of_nodup
    {l : List (String × β)} {k : String} {v : β}
    (hKeys : (l.map (·.1)).Nodup)
    (hMem : (k, v) ∈ l) :
    (ofList l).get? k = some v := by
  have hFound : (l.reverse.find? fun e => e.1 == k).isSome = true := by
    rw [List.find?_isSome]
    exact ⟨(k, v), List.mem_reverse.mpr hMem, beq_self_eq_true k⟩
  rcases Option.isSome_iff_exists.mp hFound with ⟨e, hFind⟩
  have hKey : e.1 = k := by simpa using List.find?_some hFind
  have hIn : e ∈ l := List.mem_reverse.mp (List.mem_of_find?_eq_some hFind)
  have hSame : e = (k, v) := List.inj_on_of_nodup_map hKeys hIn hMem hKey
  rw [get?_ofList, hFind, hSame]
  rfl

/- A key that is never put with the value true has the value false. -/
theorem get?_ofList_eq_false
    {l : List (String × Bool)} {k : String}
    (hKey : k ∈ l.map (·.1))
    (hNone : (k, true) ∉ l) :
    (ofList l).get? k = some false := by
  rcases List.mem_map.mp hKey with ⟨e, hMem, hSame⟩
  have hFound : (l.reverse.find? fun e => e.1 == k).isSome = true := by
    rw [List.find?_isSome]
    exact ⟨e, List.mem_reverse.mpr hMem, beq_iff_eq.mpr hSame⟩
  rcases Option.isSome_iff_exists.mp hFound with ⟨⟨k', value⟩, hFind⟩
  have hIn : (k', value) ∈ l :=
    List.mem_reverse.mp (List.mem_of_find?_eq_some hFind)
  have hKey' : k' = k := by simpa using List.find?_some hFind
  rw [get?_ofList, hFind]
  cases value with
  | false => rfl
  | true => exact absurd (hKey' ▸ hIn) hNone

/- A change is seen at its own key only. -/
theorem getD_update
    (d : Dict β) (k x : String) (dflt : β) (f : β → β) :
    (d.update k dflt f).getD x dflt =
      if x = k then f (d.getD k dflt) else d.getD x dflt := by
  unfold update
  rw [getD, get?_insert]
  by_cases hKey : x = k
  · rw [if_pos hKey, if_pos hKey]
    rfl
  · rw [if_neg hKey, if_neg hKey]
    rfl

/-
  Of changes that are made one after the other, a key is
  changed by its own ones. The first of them starts from the
  default.
-/
theorem get?_foldl_update
    {α : Type} (key : α → String) (dflt : β) (f : β → α → β) (l : List α)
    (d : Dict β)
    (k : String) :
    (l.foldl (fun d x => d.update (key x) dflt (f · x)) d).get? k =
      (l.filter fun x => key x = k).foldl (fun v x => some (f (v.getD dflt) x))
        (d.get? k) := by
  induction l generalizing d with
  | nil => rfl
  | cons x l ih =>
      rw [List.foldl_cons, ih, update, get?_insert, List.filter_cons]
      by_cases hKey : key x = k
      · rw [if_pos hKey.symm, if_pos (decide_eq_true hKey),
          List.foldl_cons, hKey]
        rfl
      · rw [if_neg (Ne.symm hKey), if_neg (by simpa using hKey)]

/- A key that is changed at all has the value of its changes. -/
theorem get?_foldl_update_empty
    {α : Type} (key : α → String) (dflt : β) (f : β → α → β) (l : List α)
    (k : String) :
    (l.foldl (fun d x => d.update (key x) dflt (f · x)) empty).get? k =
      if l.filter (fun x => key x = k) = [] then none
      else some ((l.filter fun x => key x = k).foldl f dflt) := by
  have hSome : ∀ (own : List α) (v : β),
      own.foldl (fun v x => some (f (v.getD dflt) x)) (some v) =
        some (own.foldl f v) := by
    intro own
    induction own with
    | nil => exact fun _ => rfl
    | cons x own ih => exact fun v => ih (f v x)
  rw [get?_foldl_update]
  cases l.filter (fun x => key x = k) with
  | nil => rfl
  | cons x own =>
      rw [if_neg (List.cons_ne_nil x own)]
      exact hSome own (f dflt x)

/- The keys are those of the changes. -/
theorem mem_keys_foldl_update
    {α : Type} {key : α → String} {dflt : β} {f : β → α → β} {l : List α}
    {k : String} :
    k ∈ (l.foldl (fun d x => d.update (key x) dflt (f · x)) empty).keys ↔
      ∃ x ∈ l, key x = k := by
  rw [mem_keys_iff, get?_foldl_update_empty]
  by_cases hNone : l.filter (fun x => key x = k) = []
  · rw [if_pos hNone]
    rw [List.filter_eq_nil_iff] at hNone
    simpa using hNone
  · rw [if_neg hNone]
    rw [List.filter_eq_nil_iff] at hNone
    simpa using hNone

theorem get?_map
    {γ : Type} (f : β → γ) (d : Dict β) (k : String) :
    (d.map f).get? k = (d.get? k).map f :=
  get?_mapWithKey (fun _ => f) d k

/- Changed values stand at the same keys. -/
theorem keys_map
    {γ : Type} (f : β → γ) (d : Dict β) :
    (d.map f).keys = d.keys := by
  rw [keys, map, mapWithKey, List.map_map]
  rfl

/-
  Dictionaries with the same keys are equal if they have the
  same values for them.
-/
theorem ext_of_keys
    {d e : Dict β}
    (hKeys : d.keys = e.keys)
    (hValues : ∀ k v w, d.get? k = some v → e.get? k = some w → v = w) :
    d = e := by
  apply ext_get?
  intro k
  have hBoth : (d.get? k).isSome = (e.get? k).isSome := by
    rw [Bool.eq_iff_iff, ← mem_keys_iff, ← mem_keys_iff, hKeys]
  cases hLeft : d.get? k with
  | none =>
      rw [hLeft] at hBoth
      exact (Option.not_isSome_iff_eq_none.mp (by simp [← hBoth])).symm
  | some v =>
      rw [hLeft] at hBoth
      rcases Option.isSome_iff_exists.mp hBoth.symm with ⟨w, hRight⟩
      rw [hRight, hValues k v w hLeft hRight]

/-
  Into ascending entries, one is put at its place, and none
  with the same key is left.
-/
theorem insertEntry_perm
    (k : String) (v : β) {l : List (String × β)}
    (hSorted : l.Pairwise fun a b => a.1 < b.1) :
    (insertEntry k v l).Perm ((k, v) :: l.filter fun e => e.1 ≠ k) := by
  induction l with
  | nil => exact List.Perm.refl _
  | cons a rest ih =>
      rcases a with ⟨k', v'⟩
      rcases List.pairwise_cons.mp hSorted with ⟨hFirst, hRest⟩
      -- entries behind a key that is not smaller have other keys
      have hApart : ¬ k' < k → rest.filter (fun e => e.1 ≠ k) = rest := by
        intro hLess
        apply List.filter_eq_self.mpr
        intro e hMem
        refine decide_eq_true fun hSame => hLess ?_
        rw [← hSame]
        exact hFirst e hMem
      rw [insertEntry]
      by_cases hBefore : k < k'
      · have hNe : k' ≠ k := fun hSame => String.lt_irrefl _ (hSame ▸ hBefore)
        rw [if_pos hBefore, List.filter_cons, if_pos (decide_eq_true hNe),
          hApart (String.lt_asymm hBefore)]
      · rw [if_neg hBefore]
        by_cases hSame : k = k'
        · subst hSame
          rw [if_pos rfl, List.filter_cons, if_neg (by simp),
            hApart (String.lt_irrefl _)]
        · have hNe : k' ≠ k := Ne.symm hSame
          rw [if_neg hSame, List.filter_cons, if_pos (decide_eq_true hNe)]
          exact ((ih hRest).cons _).trans (List.Perm.swap _ _ _)

theorem entries_insert_perm
    (d : Dict β) (k : String) (v : β) :
    (d.insert k v).entries.Perm ((k, v) :: d.entries.filter fun e => e.1 ≠ k) :=
  insertEntry_perm k v d.sorted

/- The entries are ascending, so that no key stands twice. -/
theorem nodup_keys
    (d : Dict β) :
    (d.entries.map (·.1)).Nodup := by
  rw [List.nodup_iff_pairwise_ne, List.pairwise_map]
  apply d.sorted.imp
  intro a b hLess hSame
  rw [hSame] at hLess
  exact String.lt_irrefl _ hLess

/- A dictionary is made of its entries. -/
theorem ofList_entries
    (d : Dict β) :
    ofList d.entries = d := by
  apply ext_get?
  intro k
  cases hValue : d.get? k with
  | some v =>
      exact get?_ofList_of_nodup d.nodup_keys
        ((mem_entries_iff d k v).mpr hValue)
  | none =>
      have hNone : (d.entries.reverse.find? fun e => e.1 == k) = none := by
        rw [List.find?_eq_none]
        intro e hMem hSame
        have hEntry : (k, e.2) ∈ d.entries := by
          rw [← beq_iff_eq.mp hSame]
          exact List.mem_reverse.mp hMem
        rw [mem_entries_iff, hValue] at hEntry
        cases hEntry
      rw [get?_ofList, hNone]
      rfl

end Dict

end ProcessEvents
