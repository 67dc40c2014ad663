/-
# Records that check themselves

A class whose constructor checks its fields and raises otherwise: `Checked` is the type of the
records that were built, each with the proof that it passed.
-/
import Mathlib.Logic.Basic

namespace Foundation

/-- Raises unless the condition holds. -/
def check (condition : Bool) (message : String) : Except String Unit :=
  if condition then .ok () else .error message

/-- The fields of a record that passed the checks of its class. -/
abbrev Checked {α : Type} (postInit : α → Except String Unit) : Type :=
  {fields : α // postInit fields = .ok ()}

/-- Builds a record. -/
def build {α : Type} (postInit : α → Except String Unit) (fields : α) :
    Except String (Checked postInit) :=
  match h : postInit fields with
  | .ok () => .ok ⟨fields, h⟩
  | .error message => .error message

variable {α : Type} {postInit : α → Except String Unit} {fields : α}

theorem build_of_ok (h : postInit fields = .ok ()) : build postInit fields = .ok ⟨fields, h⟩ := by
  rw [build]
  split
  case h_1 => rfl
  case h_2 message herror =>
    rw [h] at herror
    cases herror

variable {message : String}

theorem build_of_error (h : postInit fields = .error message) :
    build postInit fields = .error message := by
  rw [build]
  split
  case h_1 hok =>
    rw [h] at hok
    cases hok
  case h_2 message' herror =>
    rw [h] at herror
    cases herror
    rfl

theorem val_of_build {record : Checked postInit} (h : build postInit fields = .ok record) :
    record.val = fields := by
  cases hcheck : postInit fields with
  | ok u =>
    rw [build_of_ok hcheck] at h
    cases h
    rfl
  | error message =>
    rw [build_of_error hcheck] at h
    cases h

theorem check_eq_ok {condition : Bool} {u : Unit} :
    check condition message = .ok u ↔ condition = true := by
  cases condition <;> simp [check]

theorem exists_build_iff :
    (∃ record, build postInit fields = .ok record) ↔ postInit fields = .ok () := by
  constructor
  · rintro ⟨record, h⟩
    rw [← val_of_build h]
    exact record.property
  · exact fun h => ⟨_, build_of_ok h⟩

end Foundation
