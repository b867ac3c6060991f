/-!
# Queues

A queue in two lists, the front in order and the back in reverse.  An element is added in one
step, and as a rule the oldest one is dropped in one step.  What a queue holds is the list of its
elements, oldest first; the lemmas below say what each operation does to that list.
-/

set_option autoImplicit false

namespace BoardDiagnostics

/-- A queue. -/
structure Queue (α : Type) where
  /-- The older elements, oldest first. -/
  front : List α
  /-- The newer elements, newest first. -/
  back : List α
  frontLength : Nat
  backLength : Nat
  length_front : front.length = frontLength
  length_back : back.length = backLength

namespace Queue

variable {α : Type}

/-- The elements, oldest first. -/
def toList (queue : Queue α) : List α := queue.front ++ queue.back.reverse

/-- The number of elements. -/
def size (queue : Queue α) : Nat := queue.frontLength + queue.backLength

/-- The queue without elements. -/
def empty : Queue α := ⟨[], [], 0, 0, rfl, rfl⟩

/-- Add an element. -/
def push (queue : Queue α) (a : α) : Queue α where
  front := queue.front
  back := a :: queue.back
  frontLength := queue.frontLength
  backLength := queue.backLength + 1
  length_front := queue.length_front
  length_back := by simp [queue.length_back]

/-- Drop the oldest element, if there is one. -/
def dropOldest (queue : Queue α) : Queue α :=
  match _kept : queue.front with
  | _ :: front =>
    ⟨front, queue.back, queue.frontLength - 1, queue.backLength,
      by rw [← queue.length_front, _kept]; simp, queue.length_back⟩
  | [] =>
    ⟨queue.back.reverse.drop 1, [], queue.backLength - 1, 0, by simp [queue.length_back], rfl⟩

/-- The oldest element, if there is one. -/
def oldest? (queue : Queue α) : Option α :=
  match queue.front with
  | a :: _ => some a
  | [] => queue.back.getLast?

/-- The element of a number, the oldest being number zero. -/
def get? (queue : Queue α) (i : Nat) : Option α :=
  if i < queue.frontLength then queue.front[i]?
  else if i < queue.size then queue.back[queue.size - 1 - i]?
  else none

/-- The empty queue holds nothing. -/
@[simp] theorem toList_empty : (empty : Queue α).toList = [] := rfl

/-- The size of a queue counts what it holds. -/
@[simp] theorem length_toList (queue : Queue α) : queue.toList.length = queue.size := by
  simp [toList, size, queue.length_front, queue.length_back]

/-- What is added comes last. -/
@[simp] theorem toList_push (queue : Queue α) (a : α) :
    (queue.push a).toList = queue.toList ++ [a] := by
  simp [toList, push]

/-- What is dropped came first. -/
@[simp] theorem toList_dropOldest (queue : Queue α) :
    queue.dropOldest.toList = queue.toList.drop 1 := by
  unfold dropOldest
  split
  · next kept => simp [toList, kept]
  · next kept => simp [toList, kept]

/-- Adding makes a queue longer by one. -/
@[simp] theorem size_push (queue : Queue α) (a : α) : (queue.push a).size = queue.size + 1 := by
  rw [← length_toList, toList_push, List.length_append, length_toList, List.length_singleton]

/-- Dropping makes a queue shorter by one, unless it is empty. -/
@[simp] theorem size_dropOldest (queue : Queue α) : queue.dropOldest.size = queue.size - 1 := by
  rw [← length_toList, toList_dropOldest, List.length_drop, length_toList]

/-- The oldest element is the one that came first. -/
theorem oldest?_eq_head?_toList (queue : Queue α) : queue.oldest? = queue.toList.head? := by
  unfold oldest?
  split
  · next kept => simp [toList, kept]
  · next kept => simp [toList, kept]

/-- Elements are numbered in the order in which they came. -/
theorem get?_eq_getElem?_toList (queue : Queue α) (i : Nat) :
    queue.get? i = queue.toList[i]? := by
  unfold get?
  split
  · next inFront =>
    rw [toList, List.getElem?_append_left (by rw [queue.length_front]; exact inFront)]
  · next notInFront =>
    split
    · next inQueue =>
      rw [size] at inQueue
      rw [toList, List.getElem?_append_right (by rw [queue.length_front]; omega),
        List.getElem?_reverse (by rw [queue.length_front, queue.length_back]; omega)]
      congr 1
      rw [queue.length_front, queue.length_back, size]
      omega
    · next notInQueue =>
      symm
      rw [List.getElem?_eq_none_iff, length_toList]
      omega

end Queue

end BoardDiagnostics
