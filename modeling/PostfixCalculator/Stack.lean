import PostfixCalculator.Fault

/-!
# Stacks

Last in, first out. A stack is the list of its elements from the top down, and
listings show it from the bottom up. Taking from an empty stack is a fault;
looking at its top is not.

The equations below say what each operation does to the elements, so that users
of stacks reason about lists.
-/

namespace PostfixCalculator

/-- A stack with its elements from the top down. -/
structure Stack (Item : Type) where
  items : List Item
  deriving Repr

namespace Stack

variable {Item : Type}

/-- Stacks are equal if they hold equal elements in the same order, by the
equality of the elements. -/
instance [BEq Item] : BEq (Stack Item) where
  beq left right := left.items == right.items

/-- The stack that holds nothing. -/
def empty : Stack Item := ⟨[]⟩

/-- Put an element on top. -/
def push (stack : Stack Item) (item : Item) : Stack Item :=
  ⟨item :: stack.items⟩

/-- Take the top element. -/
def pop (stack : Stack Item) : Except Fault (Item × Stack Item) :=
  match stack.items with
  | [] => .error .emptyContainer
  | top :: rest => .ok (top, ⟨rest⟩)

/-- The top element, if there is one. -/
def peek? (stack : Stack Item) : Option Item :=
  stack.items.head?

/-- Whether nothing is left. -/
def isEmpty (stack : Stack Item) : Bool :=
  stack.items.isEmpty

/-- The number of elements. -/
def size (stack : Stack Item) : Nat :=
  stack.items.length

/-- Take elements from the top as long as they satisfy a condition. The
elements taken come in the order in which they left. -/
def popWhile (stack : Stack Item) (condition : Item -> Bool) : List Item × Stack Item :=
  (stack.items.takeWhile condition, ⟨stack.items.dropWhile condition⟩)

/-- The elements from the bottom up. -/
def toList (stack : Stack Item) : List Item :=
  stack.items.reverse

@[simp] theorem items_empty : (empty : Stack Item).items = [] := rfl

@[simp] theorem items_push (stack : Stack Item) (item : Item) :
    (stack.push item).items = item :: stack.items := rfl

@[simp] theorem pop_empty :
    (empty : Stack Item).pop = .error .emptyContainer := rfl

@[simp] theorem pop_push (stack : Stack Item) (item : Item) :
    (stack.push item).pop = .ok (item, stack) := rfl

/-- Taking leaves one element less. -/
theorem size_of_pop
    {stack rest : Stack Item}
    {item : Item}
    (taken : stack.pop = .ok (item, rest)) :
    stack.size = rest.size + 1 := by
  obtain ⟨items⟩ := stack
  cases items with
  | nil => contradiction
  | cons top below =>
      cases taken
      rfl

/-- The element that is seen on top is the one that is taken. -/
theorem exists_pop_of_peek?
    {stack : Stack Item}
    {item : Item}
    (seen : stack.peek? = some item) :
    ∃ rest, stack.pop = .ok (item, rest) := by
  obtain ⟨items⟩ := stack
  cases items with
  | nil => contradiction
  | cons top below =>
      cases seen
      exact ⟨⟨below⟩, rfl⟩

@[simp] theorem peek?_push (stack : Stack Item) (item : Item) :
    (stack.push item).peek? = some item := rfl

@[simp] theorem size_empty : (empty : Stack Item).size = 0 := rfl

@[simp] theorem size_push (stack : Stack Item) (item : Item) :
    (stack.push item).size = stack.size + 1 := rfl

@[simp] theorem toList_empty : (empty : Stack Item).toList = [] := rfl

@[simp] theorem toList_push (stack : Stack Item) (item : Item) :
    (stack.push item).toList = stack.toList ++ [item] := by
  simp [toList]

/-- A listing of a stack from the bottom up, each element as `inspect` writes it. -/
def listing (stack : Stack Item) (inspect : Item -> String) : String :=
  "Bottom -> [" ++ ", ".intercalate (stack.toList.map inspect) ++ "] <- Top"

end Stack

end PostfixCalculator
