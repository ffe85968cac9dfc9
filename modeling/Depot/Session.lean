import Depot.Repository.Basic
import Depot.Report

namespace Depot

structure Session (σ : Type) where
  store : σ
  log : List String := []

abbrev Work (σ : Type) := ExceptT Error (StateM (Session σ))

namespace Work

variable {σ α : Type}

def say (lines : List String) : Work σ Unit :=
  modify fun s => { s with log := s.log ++ lines }

def read (f : σ → Except Error α) : Work σ α := do
  match f (← get).store with
  | .ok a => pure a
  | .error e => throw e

def attempt (f : σ → Except Error α) : Work σ (Except Error α) := do
  pure (f (← get).store)

def change (f : σ → Changed σ) : Work σ (Except Error Unit) := do
  let (s, r) := f (← get).store
  modify fun w => { w with store := s }
  pure r

def runOn (w : Work σ α) (s : σ) : Except Error α × Session σ :=
  (w.run).run ⟨s, []⟩

end Work

end Depot
