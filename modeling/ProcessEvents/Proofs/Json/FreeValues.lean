import Mathlib.Data.List.Forall2
import ProcessEvents.Proofs.Dict
import ProcessEvents.Proofs.Json.ReadBack

/-
  A free value that has been read has no unreadable parts, its
  members are in order, and nothing is embedded in it any more.
  It may still hold an object that would be taken for an
  embedded value: one whose other members have been in front.
  It is read again as it is if and only if there is none.

  Key theorems include:
    * `mapM_eq_some_iff`, `mapM_values_eq_some_iff`
    * `Json.nested_induction`
    * `Json.normal?_normal`
    * `Json.isLiteral_of_expandAt`
    * `Json.isLiteral_of_expands`
    * `Json.free?_eq_self_iff`
-/

namespace ProcessEvents

variable {α β : Type}

------------------------------------------------------------
-- Lists of results
------------------------------------------------------------

/- Each element has a result. -/
theorem mapM_eq_some_iff
    {f : α → Option β} {l : List α} {l' : List β} :
    l.mapM f = some l' ↔ List.Forall₂ (fun x y => f x = some y) l l' := by
  induction l generalizing l' with
  | nil =>
      rw [List.mapM_nil, List.forall₂_nil_left_iff]
      exact ⟨fun hEnd => (Option.some.inj hEnd).symm, fun hNil => hNil ▸ rfl⟩
  | cons x l ih =>
      simp only [List.mapM_cons, Option.bind_eq_bind, Option.bind_eq_some_iff,
        Option.pure_def, Option.some.injEq, List.forall₂_cons_left_iff, ih]
      constructor
      · rintro ⟨y, hHead, rest, hRest, rfl⟩
        exact ⟨y, rest, hHead, hRest, rfl⟩
      · rintro ⟨y, rest, hHead, hRest, rfl⟩
        exact ⟨y, hHead, rest, hRest, rfl⟩

/- The same of values under keys. -/
theorem mapM_values_eq_some_iff
    {f : α → Option β} {l : List (String × α)} {l' : List (String × β)} :
    (l.mapM fun m => (f m.2).map fun y => (m.1, y)) = some l' ↔
      List.Forall₂ (fun m m' => m'.1 = m.1 ∧ f m.2 = some m'.2) l l' := by
  rw [mapM_eq_some_iff]
  have hSame :
      (fun (m : String × α) (m' : String × β) =>
        (f m.2).map (fun y => (m.1, y)) = some m') =
        fun m m' => m'.1 = m.1 ∧ f m.2 = some m'.2 := by
    funext m ⟨key, y⟩
    rw [eq_iff_iff, Option.map_eq_some_iff]
    constructor
    · rintro ⟨y', hValue, hEntry⟩
      cases hEntry
      exact ⟨rfl, hValue⟩
    · rintro ⟨rfl, hValue⟩
      exact ⟨y, hValue, rfl⟩
  rw [hSame]

theorem exists_of_mem_right
    {R : α → β → Prop} {l : List α} {l' : List β} {y : β}
    (hAll : List.Forall₂ R l l')
    (hMem : y ∈ l') :
    ∃ x ∈ l, R x y := by
  induction hAll with
  | nil => cases hMem
  | @cons x y' l l' hHead _ ih =>
      rcases List.mem_cons.mp hMem with rfl | hRest
      · exact ⟨x, List.mem_cons_self, hHead⟩
      · rcases ih hRest with ⟨x', hIn, hRel⟩
        exact ⟨x', List.mem_cons_of_mem _ hIn, hRel⟩

theorem exists_of_mem_left
    {R : α → β → Prop} {l : List α} {l' : List β} {x : α}
    (hAll : List.Forall₂ R l l')
    (hMem : x ∈ l) :
    ∃ y ∈ l', R x y :=
  exists_of_mem_right (R := fun y x => R x y) hAll.flip hMem

/- Values under keys leave the keys as they are. -/
theorem keys_of_forall₂
    {R : String × α → String × β → Prop} {l : List (String × α)}
    {l' : List (String × β)}
    (hAll : List.Forall₂ R l l')
    (hKeys : ∀ m m', R m m' → m'.1 = m.1) :
    l'.map (·.1) = l.map (·.1) := by
  induction hAll with
  | nil => rfl
  | cons hHead _ ih => rw [List.map_cons, List.map_cons, hKeys _ _ hHead, ih]

------------------------------------------------------------
-- Entries of dictionaries
------------------------------------------------------------

namespace Dict

theorem mem_of_mem_entries_ofList
    {l : List (String × β)} {e : String × β}
    (hMem : e ∈ (ofList l).entries) :
    e ∈ l := by
  rcases e with ⟨k, v⟩
  rw [mem_entries_iff, get?_ofList, Option.map_eq_some_iff] at hMem
  rcases hMem with ⟨e, hFind, rfl⟩
  have hKey : e.1 = k := by simpa using List.find?_some hFind
  rw [← hKey]
  exact List.mem_reverse.mp (List.mem_of_find?_eq_some hFind)

/- No key is lost. -/
theorem mem_keys_ofList
    {l : List (String × β)} {e : String × β}
    (hMem : e ∈ l) :
    e.1 ∈ (ofList l).entries.map (·.1) := by
  have hFound : (l.reverse.find? fun e' => e'.1 == e.1).isSome = true := by
    rw [List.find?_isSome]
    exact ⟨e, List.mem_reverse.mpr hMem, beq_self_eq_true _⟩
  have hKey : e.1 ∈ (ofList l).keys := by
    rw [mem_keys_iff, get?_ofList, Option.isSome_map]
    exact hFound
  exact hKey

/- Entries in order are those of a dictionary. -/
theorem entries_ofList_of_keys
    {d : Dict α} {l : List (String × β)}
    (hKeys : l.map (·.1) = d.entries.map (·.1)) :
    (ofList l).entries = l := by
  have hSorted : l.Pairwise fun a b => a.1 < b.1 := by
    rw [← List.pairwise_map (f := Prod.fst) (R := fun a b : String => a < b),
      hKeys, List.pairwise_map]
    exact d.sorted
  exact congrArg entries (ofList_entries ⟨l, hSorted⟩)

end Dict

namespace Json

------------------------------------------------------------
-- Parts of values
------------------------------------------------------------

/- By induction over values, through arrays and objects. -/
theorem nested_induction
    {P : Json → Prop}
    (hNull : P null)
    (hBool : ∀ b, P (bool b))
    (hInt : ∀ n, P (int n))
    (hDouble : ∀ x, P (double x))
    (hStr : ∀ s, P (str s))
    (hArr : ∀ items, (∀ j ∈ items, P j) → P (arr items))
    (hObj : ∀ members, (∀ m ∈ members, P m.2) → P (obj members))
    (hUnreadable : P unreadable)
    (j : Json) :
    P j :=
  @Json.rec P (fun items => ∀ j ∈ items, P j)
    (fun members => ∀ m ∈ members, P m.2)
    (fun m => P m.2)
    hNull hBool hInt hDouble hStr hArr hObj hUnreadable
    nofun (fun _ _ hHead hRest => List.forall_mem_cons.mpr ⟨hHead, hRest⟩)
    nofun (fun _ _ hHead hRest => List.forall_mem_cons.mpr ⟨hHead, hRest⟩)
    (fun _ _ hValue => hValue) j

theorem normalItems?_eq_some_iff
    {items items' : List Json} :
    normalItems? items = some items' ↔
      List.Forall₂ (fun j j' => normal? j = some j') items items' := by
  have hEach : normalItems? items = items.mapM normal? := by
    induction items with
    | nil => rw [normalItems?, List.mapM_nil]; rfl
    | cons j rest ih => rw [normalItems?, List.mapM_cons, ih]
  rw [hEach, mapM_eq_some_iff]

theorem normalMembers?_eq_some_iff
    {members members' : List (String × Json)} :
    normalMembers? members = some members' ↔
      List.Forall₂ (fun m m' => m'.1 = m.1 ∧ normal? m.2 = some m'.2)
        members members' := by
  have hEach :
      normalMembers? members =
        members.mapM fun m => (normal? m.2).map fun j => (m.1, j) := by
    induction members with
    | nil => rw [normalMembers?, List.mapM_nil]; rfl
    | cons m rest ih =>
        rw [normalMembers?, List.mapM_cons, ih]
        cases normal? m.2 with
        | none => rfl
        | some j => rfl
  rw [hEach, mapM_values_eq_some_iff]

theorem expandItems_eq_some_iff
    {embedded? : String → Option Json} {items items' : List Json} :
    expandItems embedded? items = some items' ↔
      List.Forall₂ (fun j j' => expandWith embedded? j = some j')
        items items' := by
  have hEach :
      expandItems embedded? items = items.mapM (expandWith embedded?) := by
    induction items with
    | nil => rw [expandItems, List.mapM_nil]; rfl
    | cons j rest ih => rw [expandItems, List.mapM_cons, ih]
  rw [hEach, mapM_eq_some_iff]

theorem expandMembers_eq_some_iff
    {embedded? : String → Option Json}
    {members members' : List (String × Json)} :
    expandMembers embedded? members = some members' ↔
      List.Forall₂
        (fun m m' => m'.1 = m.1 ∧ expandWith embedded? m.2 = some m'.2)
        members members' := by
  have hEach :
      expandMembers embedded? members =
        members.mapM fun m =>
          (expandWith embedded? m.2).map fun j => (m.1, j) := by
    induction members with
    | nil => rw [expandMembers, List.mapM_nil]; rfl
    | cons m rest ih =>
        rw [expandMembers, List.mapM_cons, ih]
        cases expandWith embedded? m.2 with
        | none => rfl
        | some j => rfl
  rw [hEach, mapM_values_eq_some_iff]

theorem itemsAreLiteral_iff
    {items : List Json} :
    itemsAreLiteral items = true ↔ ∀ j ∈ items, isLiteral j = true := by
  induction items with
  | nil => simp [itemsAreLiteral]
  | cons j rest ih => simp [itemsAreLiteral, ih]

theorem isLiteral_obj_iff
    {members : List (String × Json)} :
    isLiteral (obj members) = true ↔
      (∀ m ∈ members.head?, m.1 ≠ embeddingKey) ∧ ∀ m ∈ members,
        isLiteral m.2 = true := by
  cases members with
  | nil => simp [isLiteral]
  | cons m rest =>
      rcases m with ⟨key, j⟩
      simp only [isLiteral, Bool.and_eq_true, bne_iff_ne, membersAreLiteral_iff,
        List.head?_cons, Option.mem_some_iff, forall_eq', List.forall_mem_cons,
        and_assoc]

------------------------------------------------------------
-- Normal forms
------------------------------------------------------------

/- A normal form is its own normal form. -/
theorem normal?_normal
    {j n : Json}
    (hNormal : normal? j = some n) :
    normal? n = some n := by
  induction j using nested_induction generalizing n with
  | hNull | hBool b | hInt i | hDouble x | hStr s =>
      rw [normal?] at hNormal
      cases hNormal
      rw [normal?]
  | hUnreadable =>
      rw [normal?] at hNormal
      cases hNormal
  | hArr items ih =>
      rw [normal?, Option.map_eq_some_iff] at hNormal
      rcases hNormal with ⟨items', hItems, rfl⟩
      have hAll := normalItems?_eq_some_iff.mp hItems
      have hAgain : normalItems? items' = some items' := by
        rw [normalItems?_eq_some_iff, List.forall₂_same]
        intro j' hMem
        rcases exists_of_mem_right hAll hMem with ⟨j, hIn, hValue⟩
        exact ih j hIn hValue
      rw [normal?, hAgain]
      rfl
  | hObj members ih =>
      rw [normal?, Option.map_eq_some_iff] at hNormal
      rcases hNormal with ⟨members', hMembers, rfl⟩
      have hAll := normalMembers?_eq_some_iff.mp hMembers
      have hAgain :
          normalMembers? (Dict.ofList members').entries =
            some (Dict.ofList members').entries := by
        rw [normalMembers?_eq_some_iff, List.forall₂_same]
        intro m' hMem
        rcases exists_of_mem_right hAll
          (Dict.mem_of_mem_entries_ofList hMem) with
          ⟨m, hIn, -, hValue⟩
        exact ⟨rfl, ih m hIn hValue⟩
      rw [normal?, hAgain, Option.map_some, Dict.ofList_entries]

theorem isReadable_of_normal
    {j n : Json}
    (hNormal : normal? j = some n) :
    n.isReadable = true := by
  rw [isReadable, normal?_normal hNormal]
  rfl

------------------------------------------------------------
-- Embedded values
------------------------------------------------------------

/- Once all embedded values are in place, nothing is embedded. -/
theorem isLiteral_of_expandWith
    {embedded? : String → Option Json}
    (hEmbedded : ∀ text w, embedded? text = some w → isLiteral w = true)
    {j w : Json}
    (hExpand : expandWith embedded? j = some w) :
    isLiteral w = true := by
  induction j using nested_induction generalizing w with
  | hNull | hBool b | hInt i | hDouble x | hStr s | hUnreadable =>
      unfold expandWith at hExpand
      cases hExpand
      rw [isLiteral] <;> simp
  | hArr items ih =>
      rw [expandWith, Option.map_eq_some_iff] at hExpand
      rcases hExpand with ⟨items', hItems, rfl⟩
      rw [isLiteral, itemsAreLiteral_iff]
      intro j' hMem
      rcases exists_of_mem_right (expandItems_eq_some_iff.mp hItems) hMem with
        ⟨j, hIn, hValue⟩
      exact ih j hIn hValue
  | hObj members ih =>
      cases members with
      | nil =>
          rw [expandWith] at hExpand
          cases hExpand
          rw [isLiteral]
      | cons m rest =>
          rcases m with ⟨key, j⟩
          rcases List.forall_mem_cons.mp ih with ⟨hHead, hRest⟩
          unfold expandWith at hExpand
          split at hExpand
          · split at hExpand
            · exact hEmbedded _ _ hExpand
            · cases hExpand
          · rename_i hKey
            simp only [Option.bind_eq_bind, Option.bind_eq_some_iff,
              Option.pure_def, Option.some.injEq] at hExpand
            rcases hExpand with ⟨j', hValue, rest', hMembers, rfl⟩
            rw [isLiteral, hHead hValue, Bool.and_true, Bool.and_eq_true,
              bne_iff_ne, membersAreLiteral_iff]
            refine ⟨hKey, fun m' hMem => ?_⟩
            rcases exists_of_mem_right
              (expandMembers_eq_some_iff.mp hMembers) hMem with
              ⟨m, hIn, -, hMember⟩
            exact hRest m hIn hMember

/- By induction over the steps from text to text. -/
theorem isLiteral_of_expandAt
    {steps : Nat} {j w : Json}
    (hExpand : expandAt steps j = some w) :
    isLiteral w = true := by
  induction steps generalizing j w with
  | zero =>
      apply isLiteral_of_expandWith _ hExpand
      rintro text w' ⟨⟩
  | succ steps ih =>
      apply isLiteral_of_expandWith _ hExpand
      intro text w' hText
      rcases Option.bind_eq_some_iff.mp hText with ⟨j', -, hInner⟩
      exact ih hInner

/-
  In the normal form of a value that embeds nothing, an
  object that begins like an embedded value has another
  member. It cannot be put in place, so that the value can be
  read if and only if there is none.
-/
theorem isLiteral_of_expands
    {embedded? : String → Option Json} {w n e : Json}
    (hLiteral : isLiteral w = true)
    (hNormal : normal? w = some n)
    (hExpand : expandWith embedded? n = some e) :
    isLiteral n = true := by
  induction w using nested_induction generalizing n e with
  | hNull | hBool b | hInt i | hDouble x | hStr s =>
      rw [normal?] at hNormal
      cases hNormal
      exact hLiteral
  | hUnreadable =>
      rw [normal?] at hNormal
      cases hNormal
  | hArr items ih =>
      rw [normal?, Option.map_eq_some_iff] at hNormal
      rcases hNormal with ⟨items', hItems, rfl⟩
      rw [expandWith, Option.map_eq_some_iff] at hExpand
      rcases hExpand with ⟨items'', hExpanded, rfl⟩
      rw [isLiteral, itemsAreLiteral_iff] at hLiteral ⊢
      intro j' hMem
      rcases exists_of_mem_right (normalItems?_eq_some_iff.mp hItems) hMem with
        ⟨j, hIn, hValue⟩
      rcases exists_of_mem_left (expandItems_eq_some_iff.mp hExpanded) hMem with
        ⟨_, -, hEach⟩
      exact ih j hIn (hLiteral j hIn) hValue hEach
  | hObj members ih =>
      rw [normal?, Option.map_eq_some_iff] at hNormal
      rcases hNormal with ⟨members', hMembers, rfl⟩
      have hAll := normalMembers?_eq_some_iff.mp hMembers
      rw [isLiteral_obj_iff] at hLiteral
      rcases hLiteral with ⟨hFirst, hValues⟩
      have hEach :
          ∀ m' ∈ (Dict.ofList members').entries, ∀ e',
            expandWith embedded? m'.2 = some e' → isLiteral m'.2 = true := by
        intro m' hMem e' hValue
        rcases exists_of_mem_right hAll
          (Dict.mem_of_mem_entries_ofList hMem) with
          ⟨m, hIn, -, hMember⟩
        exact ih m hIn (hValues m hIn) hMember hValue
      have hKeys :
          ∀ m ∈ members, m.1 ∈ (Dict.ofList members').entries.map (·.1) := by
        intro m hMem
        rcases exists_of_mem_left hAll hMem with ⟨m', hIn, hKey, -⟩
        rw [← hKey]
        exact Dict.mem_keys_ofList hIn
      have hSome : members = [] → (Dict.ofList members').entries = [] := by
        rintro rfl
        cases hAll
        rfl
      generalize (Dict.ofList members').entries = entries at *
      cases entries with
      | nil => rw [isLiteral]
      | cons m' rest =>
          rcases m' with ⟨key, j'⟩
          rcases List.forall_mem_cons.mp hEach with ⟨hHead, hRest⟩
          unfold expandWith at hExpand
          split at hExpand
          · rename_i hKey
            split at hExpand
            · -- the first member has another key, which has not been lost
              cases members with
              | nil => cases hSome rfl
              | cons m members =>
                  have hOnly := hKeys m List.mem_cons_self
                  rw [List.map_singleton, List.mem_singleton] at hOnly
                  exact absurd (hOnly.trans hKey) (hFirst m rfl)
            · cases hExpand
          · rename_i hKey
            simp only [Option.bind_eq_bind, Option.bind_eq_some_iff,
              Option.pure_def, Option.some.injEq] at hExpand
            rcases hExpand with ⟨e', hValue, rest', hMembers', rfl⟩
            rw [isLiteral_obj_iff]
            constructor
            · rintro _ ⟨⟩
              exact hKey
            · intro m'' hMem
              rcases List.mem_cons.mp hMem with rfl | hMem
              · exact hHead e' hValue
              · rcases exists_of_mem_left
                  (expandMembers_eq_some_iff.mp hMembers') hMem with
                  ⟨e'', -, -, hMember⟩
                exact hRest m'' hMem e''.2 hMember

------------------------------------------------------------
-- Free values
------------------------------------------------------------

/- Free values are normal forms of what embeds nothing. -/
theorem exists_of_free?
    {j v : Json}
    (hFree : free? j = some v) :
    ∃ w, isLiteral w = true ∧ normal? w = some v := by
  rcases Option.bind_eq_some_iff.mp hFree with ⟨w, hExpand, hNormal⟩
  exact ⟨w, isLiteral_of_expandAt hExpand, hNormal⟩

/-
  What has been read is read again as it is, if it embeds
  nothing, and only then.
-/
theorem free?_eq_self_iff
    {j v : Json}
    (hFree : free? j = some v) :
    free? v = some v ↔ isLiteral v = true := by
  rcases exists_of_free? hFree with ⟨w, hLiteral, hNormal⟩
  constructor
  · intro hAgain
    rcases Option.bind_eq_some_iff.mp hAgain with ⟨e, hExpand, -⟩
    rw [expand?] at hExpand
    cases hSteps : longestText v with
    | zero =>
        rw [hSteps] at hExpand
        exact isLiteral_of_expands hLiteral hNormal hExpand
    | succ steps =>
        rw [hSteps] at hExpand
        exact isLiteral_of_expands hLiteral hNormal hExpand
  · intro hPlain
    rw [free?, expand?_of_isLiteral hPlain, Option.bind_some,
      normal?_normal hNormal]

theorem isReadable_of_free?
    {j v : Json}
    (hFree : free? j = some v) :
    v.isReadable = true := by
  rcases exists_of_free? hFree with ⟨w, -, hNormal⟩
  exact isReadable_of_normal hNormal

/- Of a value that embeds nothing, the free value is the value itself. -/
theorem normal?_of_free?
    {j v : Json}
    (hLiteral : isLiteral j = true)
    (hFree : free? j = some v) :
    normal? j = some v := by
  rw [free?, expand?_of_isLiteral hLiteral, Option.bind_some] at hFree
  exact hFree

end Json

end ProcessEvents
