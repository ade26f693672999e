/-!
# Items and their places

A list that holds the items of another one, each at a place of its own, among items that the other
one does not have. What stands at the places is related to the items, not moved about.
-/

namespace Teardown

set_option autoImplicit false

/-- Each item has its counterpart in the longer list at its place. -/
def Placed {Item : Type} (related : Item → Item → Prop) (places : List Nat)
    (items longer : List Item) : Prop :=
  ∀ index place : Nat, places[index]? = some place → ∃ item counterpart,
    items[index]? = some item ∧ longer[place]? = some counterpart ∧ related item counterpart

variable {Item : Type} {related : Item → Item → Prop} {places : List Nat}
  {items longer : List Item}

theorem placed_nil : Placed related [] items longer := by
  intro index place found
  cases found

theorem place_lt_of_placed (placed : Placed related places items longer) {place : Nat}
    (present : place ∈ places) : place < longer.length := by
  obtain ⟨index, found⟩ := List.mem_iff_getElem?.mp present
  obtain ⟨_, counterpart, -, atPlace, -⟩ := placed index place found
  exact (List.getElem?_eq_some_iff.mp atPlace).1

theorem place_cases (places : List Nat) (place : Nat) :
    (∃ task : Nat, places[task]? = some place) ∨ place ∉ places :=
  (Decidable.em (place ∈ places)).imp_left List.mem_iff_getElem?.mp

theorem ne_of_not_mem {task place other : Nat} (chosen : places[task]? = some place)
    (outside : other ∉ places) : place ≠ other := by
  intro same
  subst same
  exact outside (List.mem_of_getElem? chosen)

theorem getElem?_of_concat {item found : Item} {place : Nat} (earlier : place ≠ items.length)
    (atPlace : (items ++ [item])[place]? = some found) : items[place]? = some found := by
  have inside := (List.getElem?_eq_some_iff.mp atPlace).1
  rw [List.length_append, List.length_singleton] at inside
  exact (List.getElem?_append_left (by omega)).symm.trans atPlace

theorem places_nodup_concat (placed : Placed related places items longer)
    (distinct : places.Nodup) : (places ++ [longer.length]).Nodup := by
  apply List.nodup_append.mpr
  refine ⟨distinct, by simp, ?_⟩
  intro place present last new
  rw [List.mem_singleton.mp new]
  exact Nat.ne_of_lt (place_lt_of_placed placed present)

theorem placed_append (placed : Placed related places items longer) (more : List Item) :
    Placed related places items (longer ++ more) := by
  intro index place found
  obtain ⟨item, counterpart, atIndex, atPlace, holds⟩ := placed index place found
  have inside := (List.getElem?_eq_some_iff.mp atPlace).1
  exact ⟨item, counterpart, atIndex, (List.getElem?_append_left inside).trans atPlace, holds⟩

theorem placed_concat (placed : Placed related places items longer)
    (counted : places.length = items.length) {item counterpart : Item}
    (holds : related item counterpart) :
    Placed related (places ++ [longer.length]) (items ++ [item]) (longer ++ [counterpart]) := by
  intro index place found
  rcases Nat.lt_or_ge index places.length with early | late
  · rw [List.getElem?_append_left early] at found
    obtain ⟨former, formerCounterpart, atIndex, atPlace, held⟩ := placed index place found
    have inside := (List.getElem?_eq_some_iff.mp atPlace).1
    refine ⟨former, formerCounterpart, ?_, ?_, held⟩
    · rw [List.getElem?_append_left (by omega)]
      exact atIndex
    · rw [List.getElem?_append_left inside]
      exact atPlace
  · have last : index = places.length := by
      have bound := (List.getElem?_eq_some_iff.mp found).1
      rw [List.length_append, List.length_singleton] at bound
      omega
    subst last
    rw [List.getElem?_concat_length] at found
    cases found
    refine ⟨item, counterpart, ?_, List.getElem?_concat_length, holds⟩
    rw [counted, List.getElem?_concat_length]

/-- Where only one item and its counterpart change, the others keep theirs. -/
theorem placed_change (placed : Placed related places items longer) (distinct : places.Nodup)
    {changed target : Nat} (chosen : places[changed]? = some target)
    {later longerLater : List Item} {item counterpart : Item}
    (atChanged : later[changed]? = some item) (atTarget : longerLater[target]? = some counterpart)
    (holds : related item counterpart)
    (others : ∀ index, changed ≠ index → later[index]? = items[index]?)
    (longerOthers : ∀ place, target ≠ place → longerLater[place]? = longer[place]?) :
    Placed related places later longerLater := by
  intro index place found
  by_cases this : changed = index
  · subst this
    rw [chosen] at found
    cases found
    exact ⟨item, counterpart, atChanged, atTarget, holds⟩
  · have elsewhere : target ≠ place := by
      intro equal
      subst equal
      have inside := (List.getElem?_eq_some_iff.mp chosen).1
      exact this ((List.getElem?_inj inside distinct).mp (chosen.trans found.symm))
    rw [others index this, longerOthers place elsewhere]
    exact placed index place found

theorem placed_set (placed : Placed related places items longer) (distinct : places.Nodup)
    {changed target : Nat} (chosen : places[changed]? = some target) {item counterpart : Item}
    (holds : related item counterpart) :
    Placed related places (items.set changed item) (longer.set target counterpart) := by
  obtain ⟨former, formerCounterpart, atChanged, atTarget, -⟩ := placed changed target chosen
  have inItems := (List.getElem?_eq_some_iff.mp atChanged).1
  have inLonger := (List.getElem?_eq_some_iff.mp atTarget).1
  apply placed_change placed distinct chosen (List.getElem?_set_self inItems)
    (List.getElem?_set_self inLonger) holds
  · exact fun index other => List.getElem?_set_ne other
  · exact fun place other => List.getElem?_set_ne other

theorem placed_modify (placed : Placed related places items longer) (distinct : places.Nodup)
    {changed target : Nat} (chosen : places[changed]? = some target)
    {change longerChange : Item → Item}
    (keeps : ∀ item counterpart, related item counterpart →
      related (change item) (longerChange counterpart)) :
    Placed related places (items.modify changed change) (longer.modify target longerChange) := by
  obtain ⟨item, counterpart, atChanged, atTarget, holds⟩ := placed changed target chosen
  refine placed_change placed distinct chosen ?_ ?_ (keeps item counterpart holds) ?_ ?_
  · rw [List.getElem?_modify_eq, atChanged]
    rfl
  · rw [List.getElem?_modify_eq, atTarget]
    rfl
  · exact fun index other => List.getElem?_modify_ne _ _ other
  · exact fun place other => List.getElem?_modify_ne _ _ other

/-- What happens elsewhere in the longer list changes nothing. -/
theorem placed_elsewhere (placed : Placed related places items longer) {target : Nat}
    (outside : target ∉ places) {later : List Item}
    (others : ∀ place, target ≠ place → later[place]? = longer[place]?) :
    Placed related places items later := by
  intro index place found
  rw [others place (ne_of_not_mem found outside).symm]
  exact placed index place found

end Teardown
