/-
  This file defines the two readings of an identifier: the
  pure id without its modifier parameters, and the topic
  that the platform publishes a service's events on.

  Key definitions include:
    * `Ident.pure`
    * `Ident.topic`
    * `Ident.joined`
-/

namespace ProcessEvents

namespace Ident

------------------------------------------------------------
-- Modifier parameters
------------------------------------------------------------

/-
  Separator between an id and its modifier parameters, as
  in `device-1$service_group_selection=a`.
-/
def parameterSeparator : Char :=
  '$'

/- The id before its first separator. -/
def pure
    (id : String) : String :=
  String.ofList (id.toList.takeWhile (· ≠ parameterSeparator))

/- A pure id holds no separator. -/
theorem separator_notMem_pure
    (id : String) :
    parameterSeparator ∉ (pure id).toList := by
  rw [pure, String.toList_ofList]
  generalize id.toList = cs
  induction cs with
  | nil => simp
  | cons c rest ih =>
    rw [List.takeWhile_cons]
    split
    · rename_i h
      rw [List.mem_cons]
      rintro (e | hm)
      · simp [e] at h
      · exact ih hm
    · simp

private theorem takeWhile_of_separator_notMem
    {cs : List Char}
    (h : parameterSeparator ∉ cs) :
    cs.takeWhile (· ≠ parameterSeparator) = cs := by
  induction cs with
  | nil => rfl
  | cons c rest ih =>
    rw [List.mem_cons, not_or] at h
    rw [List.takeWhile_cons, if_pos (by simpa using Ne.symm h.1), ih h.2]

/- An id without separator is pure already. -/
theorem pure_eq_self
    {id : String}
    (h : parameterSeparator ∉ id.toList) :
    pure id = id := by
  rw [pure, takeWhile_of_separator_notMem h, String.ofList_toList]

------------------------------------------------------------
-- Topics
------------------------------------------------------------

/- The two characters that a topic may not hold. -/
def isTopicSeparator
    (c : Char) : Bool :=
  c == '#' || c == ':'

/- Topic of a service: every separator becomes `_`. -/
def topic
    (serviceId : String) : String :=
  String.ofList
    (serviceId.toList.map fun c =>
      if isTopicSeparator c then '_' else c)

------------------------------------------------------------
-- Lists of ids
------------------------------------------------------------

/- Ids in one text, separated by commas. -/
def joined
    (ids : List String) : String :=
  String.intercalate "," ids

end Ident

end ProcessEvents
