import NovaCommerce.GuardedRun
import Mathlib.Algebra.BigOperators.Group.Finset.Basic
import Mathlib.Algebra.Order.BigOperators.Group.Finset
import Mathlib.Tactic.Linarith

/-!
# A book of promised goods

A seller has goods in stock and promises some of them to orders.  A promise is
kept by a sale or withdrawn.  As long as nothing is promised beyond the stock,
and the stock is not run down below what is promised, every promise can be
kept, and all promises can be kept together.
-/

namespace PromisedGoods

open GuardedRun

variable {Order Good : Type*}

inductive Stage where
  | promised
  | sold
  | withdrawn
  deriving DecidableEq

/-- What is in stock, and the orders with the units that they stand for. -/
@[ext]
structure Book (Order Good : Type*) where
  stock : Good → ℤ
  orders : Finset Order
  stage : Order → Stage
  units : Order → Good → ℤ

inductive Move (Order Good : Type*) where
  | supply (amounts : Good → ℤ)
  | promise (order : Order) (units : Good → ℤ)
  | sell (order : Order)
  | withdraw (order : Order)

namespace Book

/-- The units of a good that the orders of a stage stand for. -/
def among (book : Book Order Good) (stage : Stage) (good : Good) : ℤ :=
  ∑ order ∈ book.orders with book.stage order = stage, book.units order good

theorem among_eq_sum (book : Book Order Good) (stage : Stage) (good : Good) :
    book.among stage good = ∑ order ∈ book.orders,
      if book.stage order = stage then book.units order good else 0 :=
  Finset.sum_filter _ _

variable [DecidableEq Order]

def enter (book : Book Order Good) (order : Order) (stage : Stage) :
    Book Order Good :=
  { book with stage := Function.update book.stage order stage }

def step (book : Book Order Good) : Move Order Good → Book Order Good
  | .supply amounts => { book with stock := book.stock + amounts }
  | .promise order units =>
      { book with
        orders := insert order book.orders
        stage := Function.update book.stage order .promised
        units := Function.update book.units order units }
  | .sell order =>
      { book.enter order .sold with stock := book.stock - book.units order }
  | .withdraw order => book.enter order .withdrawn

def IsPromised (book : Book Order Good) (order : Order) : Prop :=
  order ∈ book.orders ∧ book.stage order = .promised

/-- The move promises no more than there is, and names an order that it can
name. -/
def Enabled (book : Book Order Good) : Move Order Good → Prop
  | .supply amounts => ∀ good,
      book.among .promised good ≤ book.stock good + amounts good
  | .promise order units => order ∉ book.orders ∧ ∀ good, 0 ≤ units good ∧
      book.among .promised good + units good ≤ book.stock good
  | .sell order | .withdraw order => book.IsPromised order

/-- All that is promised is in stock. -/
structure Honest (book : Book Order Good) : Prop where
  units_nonneg : ∀ order ∈ book.orders, ∀ good, 0 ≤ book.units order good
  covered : ∀ good, book.among .promised good ≤ book.stock good

section Steps

variable {book : Book Order Good} {order : Order}

/-- An order takes its units from its stage to another one. -/
theorem among_enter (member : order ∈ book.orders) (new stage : Stage)
    (good : Good) :
    (book.enter order new).among stage good =
      book.among stage good -
          (if book.stage order = stage then book.units order good else 0) +
        if new = stage then book.units order good else 0 := by
  have others : ∀ other ∈ book.orders.erase order,
      (if (book.enter order new).stage other = stage then
        book.units other good else 0) =
      if book.stage other = stage then book.units other good else 0 := by
    intro other isOther
    simp [enter, Finset.ne_of_mem_erase isOther]
  have before := Finset.add_sum_erase book.orders
    (fun other => if book.stage other = stage then book.units other good else 0)
    member
  have after := Finset.add_sum_erase book.orders
    (fun other => if (book.enter order new).stage other = stage then
      book.units other good else 0) member
  rw [Finset.sum_congr rfl others] at after
  have entered : (book.enter order new).stage order = new :=
    Function.update_self _ _ _
  simp only [entered] at after
  rw [among_eq_sum, among_eq_sum]
  change (∑ other ∈ book.orders, if (book.enter order new).stage other = stage
    then book.units other good else 0) = _
  omega

/-- A new order adds its units to what is promised. -/
theorem among_promise (isNew : order ∉ book.orders) (units : Good → ℤ)
    (stage : Stage) (good : Good) :
    (book.step (.promise order units)).among stage good =
      book.among stage good +
        if Stage.promised = stage then units good else 0 := by
  let after := book.step (.promise order units)
  have others : ∀ other ∈ book.orders,
      (if after.stage other = stage then after.units other good else 0) =
      if book.stage other = stage then book.units other good else 0 := by
    intro other member
    have notOrder : other ≠ order := fun same => isNew (same ▸ member)
    simp [after, step, notOrder]
  have entered : after.stage order = .promised := Function.update_self _ _ _
  have written : after.units order = units := Function.update_self _ _ _
  rw [among_eq_sum, among_eq_sum]
  change (∑ other ∈ insert order book.orders, if after.stage other = stage
    then after.units other good else 0) = _
  rw [Finset.sum_insert isNew, Finset.sum_congr rfl others, add_comm]
  simp only [entered, written]

theorem Honest.step {move : Move Order Good} (honest : book.Honest)
    (enabled : book.Enabled move) : (book.step move).Honest := by
  cases move with
  | supply amounts => exact ⟨honest.units_nonneg, enabled⟩
  | promise order units =>
      obtain ⟨isNew, within⟩ := enabled
      constructor
      · intro other member good
        rcases Finset.mem_insert.mp member with rfl | old
        · simpa [Book.step] using (within good).1
        · have notOrder : other ≠ order := fun same => isNew (same ▸ old)
          simpa [Book.step, notOrder] using honest.units_nonneg other old good
      · intro good
        rw [among_promise isNew, if_pos rfl]
        exact (within good).2
  | sell order =>
      refine ⟨honest.units_nonneg, fun good => ?_⟩
      have sold := among_enter enabled.1 .sold .promised good
      rw [if_pos enabled.2, if_neg (by decide)] at sold
      have covered := honest.covered good
      change (book.enter order .sold).among .promised good ≤
        book.stock good - book.units order good
      omega
  | withdraw order =>
      refine ⟨honest.units_nonneg, fun good => ?_⟩
      have withdrawn := among_enter enabled.1 .withdrawn .promised good
      rw [if_pos enabled.2, if_neg (by decide)] at withdrawn
      have covered := honest.covered good
      have nonneg := honest.units_nonneg order enabled.1 good
      change (book.enter order .withdrawn).among .promised good ≤
        book.stock good
      omega

end Steps

end Book

end PromisedGoods
