/-
**Forecasters.**

A forecaster is a model with a stream of its own. A likely value takes a variate from the stream
only when the spread is known, so forecasters never disturb one another. A new forecaster starts
with one sample of zero, which makes a worker without history attractive.
-/

import JobPool.Forecast.Model
import JobPool.Random.Normal

namespace JobPool

/-- The kinds of model that a pool can be set up with. -/
inductive ModelKind where
  | exact
  | decay
  | logExact
  | logDecay
  deriving DecidableEq, Repr, Inhabited

namespace ModelKind

/-- The names of the kinds in settings. -/
def name : ModelKind → String
  | exact => "exact"
  | decay => "decay"
  | logExact => "log-exact"
  | logDecay => "log-decay"

def all : List ModelKind := [exact, decay, logExact, logDecay]

/-- The model of a kind without samples. -/
def model {α : Type} [Scale α] (alpha : α) : ModelKind → Model α
  | exact => .exact .empty
  | decay => .decay (.empty alpha)
  | logExact => .log (.exact .empty)
  | logDecay => .log (.decay (.empty alpha))

end ModelKind

/-- A model of completion times and the stream for its likely values. -/
structure Forecaster where
  model : Model Float
  stream : Random.Stream

namespace Forecaster

/-- A forecaster of a kind, with one sample of zero. -/
def create (kind : ModelKind) (alpha : Float) (stream : Random.Stream) : Forecaster :=
  { model := (kind.model alpha).add 0, stream := stream }

def add (forecaster : Forecaster) (sample : Float) : Forecaster :=
  { forecaster with model := forecaster.model.add sample }

/-- A likely value, and the forecaster behind the draw. -/
def likely (forecaster : Forecaster) : Float × Forecaster :=
  if forecaster.model.needsVariate then
    let (variate, stream) := Random.normal forecaster.stream
    (forecaster.model.likely variate, { forecaster with stream := stream })
  else (forecaster.model.likely 0, forecaster)

end Forecaster

end JobPool
