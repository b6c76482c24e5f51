import LineLint.Report
import LineLint.Text.CodePoint

namespace LineLint

/-- An analysis as it is remembered. Listings leave out its code. -/
structure Analysis where
  id : String
  code : Option String
  language : Text
  report : Report
  createdAt : String
  deriving Repr, DecidableEq

def Analysis.withoutCode (analysis : Analysis) : Analysis := { analysis with code := none }

/-- The newest analyses, the latest first, up to a fixed number. -/
structure History where
  capacity : Nat
  analyses : List Analysis
  deriving Repr, DecidableEq

structure CapacityError where
  capacity : Int
  deriving Repr, DecidableEq

def CapacityError.message (error : CapacityError) : String :=
  "max_size must be positive, got " ++ toString error.capacity

namespace History

def defaultCapacity : Int := 500

def recentLimit : Int := 50

def create (capacity : Int) : Except CapacityError History :=
  if capacity < 1 then .error ⟨capacity⟩ else .ok ⟨capacity.toNat, []⟩

def size (history : History) : Nat := history.analyses.length

/-- Remembers an analysis; beyond the capacity the oldest is forgotten. -/
def save (history : History) (analysis : Analysis) : History :=
  { history with analyses := (analysis :: history.analyses).take history.capacity }

def get? (history : History) (id : String) : Option Analysis :=
  history.analyses.find? (·.id == id)

def delete (history : History) (id : String) : History × Bool :=
  ({ history with analyses := history.analyses.eraseP (·.id == id) }, (history.get? id).isSome)

def recent (history : History) (limit : Int) : List Analysis :=
  (history.analyses.take limit.toNat).map (·.withoutCode)

@[simp] theorem capacity_save (history : History) (analysis : Analysis) :
    (history.save analysis).capacity = history.capacity := rfl

theorem size_save_le (history : History) (analysis : Analysis) :
    (history.save analysis).size ≤ history.capacity :=
  List.length_take_le _ _

end History

end LineLint
