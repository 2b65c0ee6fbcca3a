import OperandStack.Sink

/-!
# Lineages of loggers

A logger is a root or the child of an earlier logger, so each goes back to a root by a chain of
derivations. The root and the chain determine the logger, whatever else was made, written or set as
the default since.

Histories are lists of events, the latest first.
-/

set_option autoImplicit false

namespace OperandStack.Log

inductive Link where
  | forModule (name : Bytes)
  | extend (values : List Value)

namespace Link

def attributes : Link → List Attribute
  | .forModule name => [⟨ascii "module", .text name⟩]
  | .extend values => Attribute.read values

def request (on : Option Nat) : Link → Request
  | .forModule name => .forModule on name
  | .extend values => .extend on values

theorem serve_request (link : Link) (on : Option Nat) (registry : Registry) :
    (registry.serve (link.request on)).1 =
      registry.register ⟨(registry.find on).threshold,
        (registry.find on).attributes ++ link.attributes⟩ := by
  cases link with
  | forModule name => rfl
  | extend values => rfl

end Link

/-- What can happen to loggers and journals. A journal is opened on a logger that is named, or on
the default for stacks. -/
inductive Event where
  | root (threshold : Level)
  | request (request : Request)
  | openJournal (on : Option Nat)
  | push (journal : Nat) (word : Word) (depth : Nat)

namespace Event

def makesLogger : Event → Bool
  | .root _ | .request (.forModule _ _) | .request (.extend _ _) => true
  | _ => false

def setsDefault : Event → Bool
  | .request (.setDefault (some _)) => true
  | _ => false

end Event

/-! ### What a history says by its numbers alone -/

def loggersMade (history : List Event) : Nat :=
  history.countP Event.makesLogger + 1

private theorem loggersMade_cons (event : Event) (earlier : List Event) :
    loggersMade (event :: earlier) =
      loggersMade earlier + if event.makesLogger then 1 else 0 := by
  simp only [loggersMade, List.countP_cons]
  omega

/-- The number of the default logger. Naming a logger that does not exist changes nothing. -/
def defaultNumber : List Event → Nat
  | [] => 0
  | .request (.setDefault (some number)) :: earlier =>
      if number < loggersMade earlier then number else defaultNumber earlier
  | _ :: earlier => defaultNumber earlier

def servedBy (history : List Event) : Option Nat → Nat
  | none => defaultNumber history
  | some number => if number < loggersMade history then number else defaultNumber history

/-- A logger of a history goes back to a root of a threshold by a chain of derivations, the oldest
first. -/
inductive Descends (start : Level) : List Event → Nat → Level → List Link → Prop where
  | first : Descends start [] 0 start []
  | root (threshold : Level) (earlier : List Event) :
      Descends start (.root threshold :: earlier) (loggersMade earlier) threshold []
  | child {earlier : List Event} {on : Option Nat} {threshold : Level} {chain : List Link}
      (link : Link) (parent : Descends start earlier (servedBy earlier on) threshold chain) :
      Descends start (.request (link.request on) :: earlier) (loggersMade earlier) threshold
        (chain ++ [link])
  | later {earlier : List Event} {number : Nat} {threshold : Level} {chain : List Link}
      (event : Event) (before : Descends start earlier number threshold chain) :
      Descends start (event :: earlier) number threshold chain

structure Logbook where
  registry : Registry
  journals : Array Sink

namespace Logbook

def step (book : Logbook) : Event → Logbook
  | .root threshold => { book with registry := book.registry.register (.root threshold) }
  | .request request => { book with registry := (book.registry.serve request).1 }
  | .openJournal on =>
      let logger := on.map fun number => book.registry.find (some number)
      { book with journals := book.journals.push (.openJournal book.registry logger) }
  | .push journal word depth =>
      { book with journals := book.journals.modify journal (·.receive word depth) }

/-- The logbook after a history that begins with one root, which is the default. -/
def after (start : Level) : List Event → Logbook
  | [] => ⟨.new (.root start), #[]⟩
  | event :: earlier => (after start earlier).step event

/-! ### Loggers are only ever added -/

theorem loggers_step (book : Logbook) (event : Event) :
    (event.makesLogger = true ∧
      ∃ logger, (book.step event).registry.loggers = book.registry.loggers.push logger) ∨
    (event.makesLogger = false ∧ (book.step event).registry.loggers = book.registry.loggers) := by
  cases event with
  | root threshold => exact .inl ⟨rfl, _, rfl⟩
  | request request =>
      cases request with
      | forModule on name => exact .inl ⟨rfl, _, rfl⟩
      | extend on values => exact .inl ⟨rfl, _, rfl⟩
      | setDefault number => cases number <;> exact .inr ⟨rfl, rfl⟩
      | enabled on level => exact .inr ⟨rfl, rfl⟩
      | write on severity message values => exact .inr ⟨rfl, rfl⟩
  | openJournal on => exact .inr ⟨rfl, rfl⟩
  | push journal word depth => exact .inr ⟨rfl, rfl⟩

private theorem getElem?_loggers_step {book : Logbook} {number : Nat} {logger : Logger}
    (known : book.registry.loggers[number]? = some logger) (event : Event) :
    (book.step event).registry.loggers[number]? = some logger := by
  rcases loggers_step book event with ⟨_, added, grown⟩ | ⟨_, same⟩
  · obtain ⟨inside, _⟩ := Array.getElem?_eq_some_iff.mp known
    rw [grown, Array.getElem?_push, if_neg (by omega), known]
  · rw [same, known]

private theorem size_loggers (start : Level) (history : List Event) :
    (after start history).registry.loggers.size = loggersMade history := by
  induction history with
  | nil => rfl
  | cons event earlier ih =>
      rcases loggers_step (after start earlier) event with ⟨makes, added, grown⟩ | ⟨makes, same⟩
      · simp only [after, grown, Array.size_push, ih, loggersMade_cons, makes, if_true]
      · simp only [after, same, ih, loggersMade_cons, makes, Bool.false_eq_true, if_false,
          Nat.add_zero]

/-! ### The default -/

private theorem getElem?_loggers_servedBy_of_default {start : Level} {history : List Event}
    (default : (after start history).registry.loggers[defaultNumber history]? =
      some (after start history).registry.fallback) (on : Option Nat) :
    (after start history).registry.loggers[servedBy history on]? =
      some ((after start history).registry.find on) := by
  cases on with
  | none => exact default
  | some number =>
      have size := size_loggers start history
      simp only [servedBy, Registry.find, Array.getD_eq_getD_getElem?]
      split
      next known => rw [Array.getElem?_eq_getElem (by omega), Option.getD_some]
      next unknown => rw [default, Array.getElem?_eq_none (by omega), Option.getD_none]

private theorem getElem?_loggers_defaultNumber (start : Level) (history : List Event) :
    (after start history).registry.loggers[defaultNumber history]? =
      some (after start history).registry.fallback := by
  induction history with
  | nil => rfl
  | cons event earlier ih =>
      have kept := getElem?_loggers_step ih event
      cases event with
      | root threshold => exact kept
      | request request =>
          cases request with
          | setDefault number =>
              cases number with
              | none => exact kept
              | some number =>
                  exact getElem?_loggers_servedBy_of_default ih (some number)
          | forModule on name => exact kept
          | extend on values => exact kept
          | enabled on level => exact kept
          | write on severity message values => exact kept
      | openJournal on => exact kept
      | push journal word depth => exact kept

private theorem getElem?_loggers_servedBy (start : Level) (history : List Event) (on : Option Nat) :
    (after start history).registry.loggers[servedBy history on]? =
      some ((after start history).registry.find on) :=
  getElem?_loggers_servedBy_of_default (getElem?_loggers_defaultNumber start history) on

theorem find_eq_of_servedBy {history : List Event} {first second : Option Nat}
    (same : servedBy history first = servedBy history second) (start : Level) :
    (after start history).registry.find first = (after start history).registry.find second := by
  have known := getElem?_loggers_servedBy start history first
  rw [same, getElem?_loggers_servedBy, Option.some.injEq] at known
  exact known.symm

theorem servedBy_lt (history : List Event) (on : Option Nat) :
    servedBy history on < loggersMade history := by
  obtain ⟨inside, _⟩ :=
    Array.getElem?_eq_some_iff.mp (getElem?_loggers_servedBy 0 history on)
  rwa [size_loggers] at inside

end Logbook

private theorem defaultNumber_cons_of_keeps {event : Event} (keeps : event.setsDefault = false)
    (earlier : List Event) : defaultNumber (event :: earlier) = defaultNumber earlier := by
  cases event with
  | request request =>
      cases request with
      | setDefault number =>
          cases number with
          | none => rfl
          | some number => cases keeps
      | forModule | extend | enabled | write => rfl
  | root | openJournal | push => rfl

theorem defaultNumber_append_of_keeps {later : List Event}
    (keep : ∀ event ∈ later, event.setsDefault = false) (earlier : List Event) :
    defaultNumber (later ++ earlier) = defaultNumber earlier := by
  induction later with
  | nil => rfl
  | cons event later ih =>
      rw [List.cons_append, defaultNumber_cons_of_keeps (keep event (by simp))]
      exact ih fun event member => keep event (by simp [member])

/-! ### The logger of a lineage -/

namespace Descends

open Logbook

theorem logger {start threshold : Level} {history : List Event} {number : Nat}
    {chain : List Link} (lineage : Descends start history number threshold chain) :
    (after start history).registry.loggers[number]? =
      some ⟨threshold, chain.flatMap Link.attributes⟩ := by
  induction lineage with
  | first => rfl
  | root threshold earlier =>
      have size := size_loggers start earlier
      simp [after, step, Registry.register, Logger.root, ← size]
  | @child earlier on threshold chain link parent ih =>
      have size := size_loggers start earlier
      have found : (after start earlier).registry.find on =
          ⟨threshold, chain.flatMap Link.attributes⟩ := by
        rw [getElem?_loggers_servedBy, Option.some.injEq] at ih
        exact ih
      simp [after, step, Link.serve_request, Registry.register, found, ← size]
  | later event before ih => exact getElem?_loggers_step ih event

theorem find_some {start threshold : Level} {history : List Event} {number : Nat}
    {chain : List Link} (lineage : Descends start history number threshold chain) :
    (after start history).registry.find (some number) =
      ⟨threshold, chain.flatMap Link.attributes⟩ := by
  simp only [Registry.find, Array.getD_eq_getD_getElem?, lineage.logger, Option.getD_some]

theorem fallback {start threshold : Level} {history : List Event} {chain : List Link}
    (lineage : Descends start history (defaultNumber history) threshold chain) :
    (after start history).registry.fallback = ⟨threshold, chain.flatMap Link.attributes⟩ := by
  have known := lineage.logger
  rw [getElem?_loggers_defaultNumber, Option.some.injEq] at known
  exact known

theorem append {start threshold : Level} {earlier : List Event} {number : Nat}
    {chain : List Link} (lineage : Descends start earlier number threshold chain)
    (later : List Event) : Descends start (later ++ earlier) number threshold chain := by
  induction later with
  | nil => exact lineage
  | cons event later ih => exact .later event ih

end Descends

private theorem exists_descends_newest {start : Level} {event : Event} {earlier : List Event}
    (parents : ∀ number < loggersMade earlier,
      ∃ threshold chain, Descends start earlier number threshold chain)
    (makes : event.makesLogger = true) :
    ∃ threshold chain, Descends start (event :: earlier) (loggersMade earlier) threshold chain := by
  have child (link : Link) (on : Option Nat) : ∃ threshold chain,
      Descends start (.request (link.request on) :: earlier) (loggersMade earlier) threshold
        chain := by
    obtain ⟨threshold, chain, parent⟩ := parents _ (Logbook.servedBy_lt earlier on)
    exact ⟨threshold, chain ++ [link], .child link parent⟩
  cases event with
  | root threshold => exact ⟨threshold, [], .root threshold earlier⟩
  | request request =>
      cases request with
      | forModule on name => exact child (.forModule name) on
      | extend on values => exact child (.extend values) on
      | setDefault number => cases number <;> cases makes
      | enabled | write => cases makes
  | openJournal | push => cases makes

theorem exists_descends (start : Level) {history : List Event} {number : Nat}
    (made : number < loggersMade history) :
    ∃ threshold chain, Descends start history number threshold chain := by
  induction history generalizing number with
  | nil =>
      obtain rfl : number = 0 := Nat.lt_one_iff.mp made
      exact ⟨start, [], .first⟩
  | cons event earlier ih =>
      rw [loggersMade_cons] at made
      by_cases old : number < loggersMade earlier
      · obtain ⟨threshold, chain, lineage⟩ := ih old
        exact ⟨threshold, chain, .later event lineage⟩
      · cases makes : event.makesLogger with
        | true =>
            simp only [makes, if_true] at made
            obtain rfl : number = loggersMade earlier := by omega
            exact exists_descends_newest (fun _ => ih) makes
        | false =>
            simp only [makes, Bool.false_eq_true, if_false] at made
            exact absurd made old

end OperandStack.Log
