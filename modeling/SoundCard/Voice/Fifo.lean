/-!
# Queues

A first-in first-out queue that knows its length. Items are pushed at the back and taken from the
front, each in constant time on average. `toList`, oldest item first, is the view through which all
of its laws are stated.
-/

set_option autoImplicit false

namespace SoundCard

structure Fifo (α : Type) where
  /-- Older items, oldest first. -/
  front : List α
  /-- Newer items, newest first. -/
  back : List α
  size : Nat
  size_eq : size = front.length + back.length

namespace Fifo

variable {α : Type}

def empty : Fifo α where
  front := []
  back := []
  size := 0
  size_eq := rfl

def toList (queue : Fifo α) : List α :=
  queue.front ++ queue.back.reverse

def push (queue : Fifo α) (items : List α) : Fifo α where
  front := queue.front
  back := items.reverseAux queue.back
  size := queue.size + items.length
  size_eq := by
    have known := queue.size_eq
    simp only [List.reverseAux_eq, List.length_append, List.length_reverse]
    omega

/-- The `count` oldest items, or all if there are fewer, and the queue of the others. -/
def take (queue : Fifo α) (count : Nat) : List α × Fifo α :=
  let older := queue.front.take count
  if short : older.length < count then
    let newer := queue.back.reverse.take (count - older.length)
    (older ++ newer,
      { front := queue.back.reverse.drop (count - older.length)
        back := []
        size := queue.size - (older.length + newer.length)
        size_eq := by
          have known := queue.size_eq
          simp only [older, newer, List.length_take, List.length_drop, List.length_reverse,
            List.length_nil] at *
          omega })
  else
    (older,
      { front := queue.front.drop count
        back := queue.back
        size := queue.size - older.length
        size_eq := by
          have known := queue.size_eq
          simp only [older, List.length_take, List.length_drop] at *
          omega })

theorem size_eq_length (queue : Fifo α) : queue.size = queue.toList.length := by
  simp [toList, queue.size_eq]

@[simp] theorem toList_empty : (empty : Fifo α).toList = [] := rfl

@[simp] theorem toList_push (queue : Fifo α) (items : List α) :
    (queue.push items).toList = queue.toList ++ items := by
  simp [push, toList, List.reverseAux_eq]

@[simp] theorem take_fst (queue : Fifo α) (count : Nat) :
    (queue.take count).1 = queue.toList.take count := by
  unfold take toList
  dsimp only
  split
  · next short =>
    simp only [List.length_take] at short
    have whole : queue.front.length ≤ count := by omega
    simp [List.take_append, List.take_of_length_le whole]
  · next long =>
    simp only [List.length_take] at long
    have enough : count ≤ queue.front.length := by omega
    simp [List.take_append_of_le_length enough]

@[simp] theorem toList_take_snd (queue : Fifo α) (count : Nat) :
    (queue.take count).2.toList = queue.toList.drop count := by
  unfold take toList
  dsimp only
  split
  · next short =>
    simp only [List.length_take] at short
    have whole : queue.front.length ≤ count := by omega
    simp [List.drop_append, List.take_of_length_le whole, List.drop_of_length_le whole]
  · next long =>
    simp only [List.length_take] at long
    have enough : count ≤ queue.front.length := by omega
    simp [List.drop_append_of_le_length enough]

theorem take_append_toList (queue : Fifo α) (count : Nat) :
    (queue.take count).1 ++ (queue.take count).2.toList = queue.toList := by
  simp

end Fifo

end SoundCard
