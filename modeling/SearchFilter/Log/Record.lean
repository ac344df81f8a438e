/-!
# Log records

What a step of the program has to tell, apart from its result.

* `Record` is a message with its rank; a `Level` is a rank that has a name.
* `abbreviation` is how lines show a rank.
* `Logged` is a result with the records made on the way to it; records keep their order when steps
  are joined (`records_bind`).
-/

set_option autoImplicit false

namespace SearchFilter
namespace Log

/-- The ranks that have names. -/
inductive Level where
  | debug
  | info
  | warning
  | error
  | critical
deriving DecidableEq, Repr

namespace Level

/-- The rank of a level. -/
def rank : Level → Int
  | debug => 10
  | info => 20
  | warning => 30
  | error => 40
  | critical => 50

/-- The name of a level. -/
def name : Level → String
  | debug => "DEBUG"
  | info => "INFO"
  | warning => "WARNING"
  | error => "ERROR"
  | critical => "CRITICAL"

/-- All levels, by rank. -/
def all : List Level := [debug, info, warning, error, critical]

/-- The level of a name. -/
def ofName? (name : String) : Option Level :=
  all.find? (·.name == name)

end Level

/-- The name of a rank; those between the levels have one made of the number. -/
def nameOfRank (rank : Int) : String :=
  match Level.all.find? (·.rank = rank) with
  | some level => level.name
  | none => if rank = 0 then "NOTSET" else s!"Level {rank}"

/-- The names that lines do not show by their first letters, with what they show instead. -/
def abbreviations : List (String × String) := [
  ("DEBUG", "DEBG"), ("WARNING", "WARN"), ("ERROR", "ERRO"), ("CRITICAL", "ERRO")]

/-- The four letters by which lines show a rank. -/
def abbreviation (rank : Int) : String :=
  let name := nameOfRank rank
  (abbreviations.lookup name).getD (String.ofList (name.toList.take 4))

/-- A message for the log. -/
structure Record where
  /-- How much the message matters. -/
  rank : Int
  message : String
deriving DecidableEq, Repr

/-- A result and the records made on the way to it, in order. -/
structure Logged (α : Type) where
  value : α
  records : List Record := []
deriving Repr

namespace Logged

variable {α β : Type}

instance : Monad Logged where
  pure a := ⟨a, []⟩
  bind x f := ⟨(f x.value).value, x.records ++ (f x.value).records⟩

@[simp]
theorem value_pure (a : α) : (pure a : Logged α).value = a := rfl

@[simp]
theorem records_pure (a : α) : (pure a : Logged α).records = [] := rfl

@[simp]
theorem value_bind (x : Logged α) (f : α → Logged β) : (x >>= f).value = (f x.value).value := rfl

@[simp]
theorem records_bind (x : Logged α) (f : α → Logged β) :
    (x >>= f).records = x.records ++ (f x.value).records := rfl

end Logged

/-- A step that only makes a record. -/
def record (level : Level) (message : String) : Logged Unit :=
  ⟨(), [⟨level.rank, message⟩]⟩

end Log
end SearchFilter
