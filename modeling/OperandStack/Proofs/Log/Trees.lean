import OperandStack.Proofs.Log.Lineage
import OperandStack.Proofs.Log.Record

/-!
# Trees of loggers

What a logger writes is decided by its root and by the chain of derivations that leads to it.
Values that a derivation adds can as well be given in two derivations or with each call, as long as
no key is parted from its value. A call that names no logger goes to the one that was last set as
the default, and a journal keeps the logger with which it was opened.
-/

set_option autoImplicit false

namespace OperandStack.Log

/-- Whether reading values from the left ends at a text that stands where a key is expected. -/
def Attribute.dangles : List Value → Bool
  | [] => false
  | [.text _] => true
  | .text _ :: _ :: rest => dangles rest
  | _ :: rest => dangles rest

theorem Attribute.read_append {first : List Value} (closed : dangles first = false)
    (second : List Value) : read (first ++ second) = read first ++ read second := by
  fun_induction dangles first with
  | case1 => rfl
  | case2 lone => cases closed
  | case3 key value rest ih =>
      simp only [List.cons_append, read, ih closed]
  | case4 value rest notLone notKey ih =>
      cases value with
      | text key =>
          cases rest with
          | nil => exact (notLone key rfl rfl).elim
          | cons value rest => exact (notKey key value rest rfl rfl).elim
      | int | bool | null | other | entry => simp only [List.cons_append, read, ih closed]

-- A key at the end of the first part would take the first value of the second part.
example : Attribute.read ([.text (ascii "k")] ++ [.null]) ≠
    Attribute.read [.text (ascii "k")] ++ Attribute.read [.null] := by decide

namespace Logger

theorem extend_extend (logger : Logger) {first : List Value}
    (closed : Attribute.dangles first = false) (second : List Value) :
    (logger.extend first).extend second = logger.extend (first ++ second) := by
  simp only [extend, Attribute.read_append closed, List.append_assoc]

theorem line?_extend (logger : Logger) {first : List Value}
    (closed : Attribute.dangles first = false) (severity : Severity) (message : Bytes)
    (second : List Value) :
    (logger.extend first).line? severity message second =
      logger.line? severity message (first ++ second) := by
  simp only [line?, enabled, extend, Attribute.read_append closed, List.append_assoc]
  rfl

private theorem toList_line? (logger : Logger) (severity : Severity) (message : Bytes)
    (values : List Value) :
    (logger.line? severity message values).toList =
      if logger.threshold ≤ severity.level then
        [line severity message (logger.attributes ++ Attribute.read values)]
      else [] := by
  simp only [line?, enabled, decide_eq_true_eq]
  split <;> rfl

end Logger

/-! ### Journals -/

namespace Event

def opensJournal : Event → Bool
  | .openJournal _ => true
  | _ => false

def pushOn? (journal : Nat) : Event → Option (Word × Nat)
  | .push target word depth => if journal = target then some (word, depth) else none
  | _ => none

end Event

def journalsOpened (history : List Event) : Nat :=
  history.countP Event.opensJournal

def pushesOn (journal : Nat) (history : List Event) : List (Word × Nat) :=
  (history.filterMap (Event.pushOn? journal)).reverse

def Logger.pushLines (logger : Logger) (pushes : List (Word × Nat)) : List Bytes :=
  pushes.filterMap fun push => logger.pushLine? push.1 push.2

def pushRecord (attributes : List Attribute) (push : Word × Nat) : Bytes :=
  line .debug (ascii "push") (attributes ++
    [⟨ascii "value", .text push.1.text⟩, ⟨ascii "depth", .int push.2⟩])

private theorem Logger.pushLines_eq (logger : Logger) (pushes : List (Word × Nat)) :
    logger.pushLines pushes =
      if logger.threshold ≤ Severity.debug.level then pushes.map (pushRecord logger.attributes)
      else [] := by
  by_cases reached : logger.threshold ≤ Severity.debug.level
  · have written (push : Word × Nat) : logger.pushLine? push.1 push.2 =
        some (pushRecord logger.attributes push) := by
      simp [pushLine?, line?, enabled, reached, Attribute.read, pushRecord]
    simp only [pushLines, written, if_pos reached, List.filterMap_eq_map']
  · have silent (push : Word × Nat) : logger.pushLine? push.1 push.2 = none := by
      simp [pushLine?, line?, enabled, reached]
    simp [pushLines, silent, reached]

private theorem receive_journal (logger : Logger) (lines : List Bytes) (word : Word) (depth : Nat) :
    (Sink.journal logger lines.toArray).receive word depth =
      .journal logger (lines ++ logger.pushLines [(word, depth)]).toArray := by
  simp only [Sink.receive, Logger.pushLines]
  cases written : logger.pushLine? word depth with
  | none => simp [written]
  | some line => simp [written]

namespace Logbook

private theorem size_journals (start : Level) (history : List Event) :
    (after start history).journals.size = journalsOpened history := by
  induction history with
  | nil => rfl
  | cons event earlier ih =>
      cases event with
      | openJournal on =>
          simp only [after, step, Array.size_push, ih, journalsOpened, List.countP_cons,
            Event.opensJournal, if_true]
      | root | request | push =>
          simp [after, step, journalsOpened, Event.opensJournal, ih]

private theorem journal_step {book : Logbook} {journal : Nat} {logger : Logger} {lines : List Bytes}
    (opened : book.journals[journal]? = some (.journal logger lines.toArray)) (event : Event) :
    (book.step event).journals[journal]? =
      some (.journal logger
        (lines ++ logger.pushLines (event.pushOn? journal).toList).toArray) := by
  cases event with
  | root threshold => simpa [step, Event.pushOn?, Logger.pushLines] using opened
  | request request => simpa [step, Event.pushOn?, Logger.pushLines] using opened
  | openJournal on =>
      obtain ⟨inside, _⟩ := Array.getElem?_eq_some_iff.mp opened
      simp only [step, Array.getElem?_push, Event.pushOn?]
      rw [if_neg (by omega), opened]
      simp [Logger.pushLines]
  | push target word depth =>
      simp only [step, Array.getElem?_modify, Event.pushOn?]
      by_cases here : target = journal
      · simp [here, opened, receive_journal]
      · simpa [here, Ne.symm here, Logger.pushLines] using opened

private theorem journal_after {start : Level} {earlier : List Event}
    {journal : Nat} {logger : Logger}
    (opened : (after start earlier).journals[journal]? = some (.journal logger #[]))
    (later : List Event) :
    (after start (later ++ earlier)).journals[journal]? =
      some (.journal logger (logger.pushLines (pushesOn journal later)).toArray) := by
  induction later with
  | nil => exact opened
  | cons event later ih =>
      have stepped := journal_step ih event
      rw [List.cons_append, after, stepped]
      cases noted : event.pushOn? journal with
      | none => simp [pushesOn, Logger.pushLines, noted]
      | some push => simp [pushesOn, Logger.pushLines, noted]

private theorem journal_opened (start : Level) (earlier : List Event) :
    (after start (.openJournal none :: earlier)).journals[journalsOpened earlier]? =
      some (.journal ((after start earlier).registry.fallback.forModule (ascii "stack")) #[]) := by
  have size := size_journals start earlier
  simp [after, step, Sink.openJournal, ← size]

end Logbook

open Logbook (after)

/-! ### Runs of requests -/

theorem Registry.serveAll_append (registry : Registry) (first second : List Request) :
    registry.serveAll (first ++ second) =
      (((registry.serveAll first).1.serveAll second).1,
        (registry.serveAll first).2 ++ ((registry.serveAll first).1.serveAll second).2) := by
  induction first generalizing registry with
  | nil => rfl
  | cons request first ih => simp only [List.cons_append, Registry.serveAll, ih]

private theorem Registry.length_serveAll (registry : Registry) (requests : List Request) :
    (registry.serveAll requests).2.length = requests.length := by
  induction requests generalizing registry with
  | nil => rfl
  | cons request rest ih => simp only [Registry.serveAll, List.length_cons, ih]

private theorem registry_after_requests (start : Level) (earlier : List Event)
    (requests : List Request) :
    (after start ((requests.map .request).reverse ++ earlier)).registry =
      ((after start earlier).registry.serveAll requests).1 := by
  induction requests generalizing earlier with
  | nil => rfl
  | cons request rest ih =>
      rw [List.map_cons, List.reverse_cons, List.append_assoc, List.singleton_append, ih]
      rfl

private theorem getElem?_serveAll (start : Level) (earlier : List Request) (request : Request)
    (later : List Request) :
    ((Registry.new (.root start)).serveAll (earlier ++ request :: later)).2[earlier.length]? =
      some ((after start (earlier.map .request).reverse).registry.serve request).2 := by
  have length := Registry.length_serveAll (.new (.root start)) earlier
  have registry := registry_after_requests start [] earlier
  rw [List.append_nil] at registry
  rw [Registry.serveAll_append, List.getElem?_append_right (by omega), length, Nat.sub_self,
    registry]
  rfl

/-! ### Trees of loggers -/

/-- What a logger writes follows from its root and its chain of derivations alone. -/
theorem written_by_lineage {start threshold : Level} {history : List Event} {number : Nat}
    {chain : List Link} (lineage : Descends start history number threshold chain)
    (severity : Severity) (message : Bytes) (values : List Value) :
    ((after start history).registry.serve (.write (some number) severity message values)).2.lines =
      if threshold ≤ severity.level then
        [line severity message (chain.flatMap Link.attributes ++ Attribute.read values)]
      else [] := by
  simp only [Registry.serve, lineage.find_some, Logger.toList_line?]

theorem enabled_by_lineage {start threshold : Level} {history : List Event} {number : Nat}
    {chain : List Link} (lineage : Descends start history number threshold chain)
    (level : Level) :
    ((after start history).registry.serve (.enabled (some number) level)).2.enabled =
      some (decide (threshold ≤ level)) := by
  simp only [Registry.serve, lineage.find_some, Logger.enabled]

private theorem servedBy_last_default {later earlier : List Event} {number : Nat}
    (known : number < loggersMade earlier)
    (last : ∀ event ∈ later, event.setsDefault = false) :
    servedBy (later ++ .request (.setDefault (some number)) :: earlier) none =
      servedBy (later ++ .request (.setDefault (some number)) :: earlier) (some number) := by
  have still : number < loggersMade (later ++ .request (.setDefault (some number)) :: earlier) := by
    simp only [loggersMade, List.countP_append, List.countP_cons] at known ⊢
    omega
  simp only [servedBy, defaultNumber_append_of_keeps last, defaultNumber, if_pos known,
    if_pos still]

private theorem servedBy_first_default {history : List Event}
    (unset : ∀ event ∈ history, event.setsDefault = false) :
    servedBy history none = servedBy history (some 0) := by
  have first : defaultNumber history = 0 := by
    simpa [defaultNumber] using defaultNumber_append_of_keeps unset []
  simp only [servedBy, first, ite_self]

/-- The attributes of the part that belongs to stacks, below a chain of derivations. -/
def stackAttributes (chain : List Link) : List Attribute :=
  (chain ++ [Link.forModule (ascii "stack")]).flatMap Link.attributes

private theorem journal_of_default {start threshold : Level} {earlier : List Event}
    {chain : List Link} (lineage : Descends start earlier (defaultNumber earlier) threshold chain)
    (later : List Event) :
    (after start (later ++ .openJournal none :: earlier)).journals[journalsOpened earlier]? =
      some (.journal ⟨threshold, stackAttributes chain⟩
        (if threshold ≤ Severity.debug.level then
          (pushesOn (journalsOpened earlier) later).map (pushRecord (stackAttributes chain))
        else []).toArray) := by
  have logger : (after start earlier).registry.fallback.forModule (ascii "stack") =
      ⟨threshold, stackAttributes chain⟩ := by
    rw [lineage.fallback, stackAttributes, List.flatMap_append]
    rfl
  have opened := Logbook.journal_opened start earlier
  rw [logger] at opened
  rw [Logbook.journal_after opened, Logger.pushLines_eq]

/-- Trees of loggers compose. Every logger has a lineage, and after any history each of its calls
writes one line or none by the level of its root, with the attributes of its chain before those of
the call; so it is answered in a run of requests, too. A line is one object, and its attributes are
members of it in their order. Neither the place where attributes are cut into derivations and calls
matters, nor whether a part of the program is named by a derivation of its own. Calls that name no
logger go to the last default, and a journal of the default stays with the logger that was the
default at its opening. -/
theorem logger_trees_compose (start : Level) (history : List Event) :
    (∀ number < loggersMade history,
      ∃ threshold chain, Descends start history number threshold chain) ∧
    (∀ (earlier later : List Request) (request : Request),
      history = (earlier.map Event.request).reverse →
      ((Registry.new (.root start)).serveAll (earlier ++ request :: later)).2[earlier.length]? =
        some ((after start history).registry.serve request).2) ∧
    (∀ later earlier number threshold chain, history = later ++ earlier →
      Descends start earlier number threshold chain →
      (∀ severity message values,
        ((after start history).registry.serve
            (.write (some number) severity message values)).2.lines =
          if threshold ≤ severity.level then
            [line severity message (chain.flatMap Link.attributes ++ Attribute.read values)]
          else []) ∧
      ∀ level, ((after start history).registry.serve (.enabled (some number) level)).2.enabled =
        some (decide (threshold ≤ level))) ∧
    (∀ severity message attributes, line severity message attributes =
      ascii "\x7b\"level\":\"" ++ severity.name ++ ascii "\",\"msg\":" ++ jsonText message ++
        attributes.flatMap Attribute.json ++ ascii "\x7d") ∧
    (∀ key value, Attribute.json ⟨key, value⟩ =
      if key = [] ∧ value = .null then []
      else ascii "," ++ jsonText key ++ ascii ":" ++ value.json) ∧
    (∀ (logger : Logger) (first second : List Value), Attribute.dangles first = false →
      (logger.extend first).extend second = logger.extend (first ++ second) ∧
      ∀ severity message, (logger.extend first).line? severity message second =
        logger.line? severity message (first ++ second)) ∧
    (∀ (logger : Logger) (name : Bytes),
      logger.forModule name = logger.extend [.text (ascii "module"), .text name]) ∧
    (∀ later number earlier,
      history = later ++ .request (.setDefault (some number)) :: earlier →
      number < loggersMade earlier → (∀ event ∈ later, event.setsDefault = false) →
      ∀ severity message values,
        (after start history).registry.serve (.write none severity message values) =
          (after start history).registry.serve (.write (some number) severity message values)) ∧
    ((∀ event ∈ history, event.setsDefault = false) →
      ∀ severity message values,
        (after start history).registry.serve (.write none severity message values) =
          (after start history).registry.serve (.write (some 0) severity message values)) ∧
    (∀ later earlier threshold chain, history = later ++ .openJournal none :: earlier →
      Descends start earlier (defaultNumber earlier) threshold chain →
      (after start history).journals[journalsOpened earlier]? =
        some (.journal ⟨threshold, stackAttributes chain⟩
          (if threshold ≤ Severity.debug.level then
            (pushesOn (journalsOpened earlier) later).map (pushRecord (stackAttributes chain))
          else []).toArray)) := by
  refine ⟨?_, ?_, ?_, line_eq_object, Attribute.json_eq_member, ?_, ?_, ?_, ?_, ?_⟩
  · intro number made
    exact exists_descends start made
  · rintro earlier later request rfl
    exact getElem?_serveAll start earlier request later
  · rintro later earlier number threshold chain rfl lineage
    exact ⟨written_by_lineage (lineage.append later), enabled_by_lineage (lineage.append later)⟩
  · intro logger first second closed
    exact ⟨logger.extend_extend closed second,
      fun severity message => logger.line?_extend closed severity message second⟩
  · intro logger name
    rfl
  · rintro later number earlier rfl known last severity message values
    have same := Logbook.find_eq_of_servedBy (servedBy_last_default known last) start
    simp only [Registry.serve, same]
  · intro unset severity message values
    have same := Logbook.find_eq_of_servedBy (servedBy_first_default unset) start
    simp only [Registry.serve, same]
  · rintro later earlier threshold chain rfl lineage
    exact journal_of_default lineage later

/-- A child and its own child, another root and a sibling, and then a default. -/
def branching : List Event :=
  [.request (.setDefault (some 3)),
    .request (.extend (some 1) [.int 7]),
    .request (.forModule (some 1) (ascii "core")),
    .root 4,
    .request (.extend (some 0) [.text (ascii "a"), .int 1])]

/-- A record, another default, a request that sets none, and a push in a journal. -/
def sequel : List Event :=
  [.push 0 .zero 1,
    .request (.setDefault none),
    .request (.setDefault (some 2)),
    .request (.write none .info (ascii "m") [])]

def ratio : Value :=
  .entry (ascii "ratio") (.other (ascii "0.5"))
    (ascii "\x7b\"Key\":\"ratio\",\"Value\":\x7b\x7d\x7d")

theorem branching_composes :
    let core := [Link.extend [.text (ascii "a"), .int 1], .forModule (ascii "core")]
    let book := after (-4) (sequel ++ .openJournal none :: branching)
    (book.registry.serve (.write (some 3) .warn (ascii "m") [.bool true, ratio])).2.lines =
      [ascii "\x7b\"level\":\"WARN\",\"msg\":\"m\",\"a\":1,\"module\":\"core\"," ++
        ascii "\"!BADKEY\":true,\"ratio\":0.5\x7d"] ∧
    (book.registry.serve (.enabled (some 3) (-5))).2.enabled = some false ∧
    (Attribute.dangles [.int 7, .text (ascii "a"), .null] = false ∧
      ((Logger.root 0).extend [.int 7, .text (ascii "a"), .null]).extend [.text (ascii "b")] =
        (Logger.root 0).extend [.int 7, .text (ascii "a"), .null, .text (ascii "b")]) ∧
    book.registry.serve (.write none .info (ascii "m") []) =
      book.registry.serve (.write (some 2) .info (ascii "m") []) ∧
    book.journals[0]? = some (.journal ⟨-4, stackAttributes core⟩
      #[pushRecord (stackAttributes core) (.zero, 1)]) := by
  have root : Descends (-4) [] (servedBy [] (some 0)) (-4) [] := .first
  have child := (root.child (.extend [.text (ascii "a"), .int 1])).later (.root 4)
  have core : Descends (-4) branching 3 (-4)
      [.extend [.text (ascii "a"), .int 1], .forModule (ascii "core")] :=
    ((@Descends.child _ _ (some 1) _ _ (.forModule (ascii "core")) child).later _).later _
  obtain ⟨_, _, calls, object, _, splits, _, default, _, journal⟩ :=
    logger_trees_compose (-4) (sequel ++ .openJournal none :: branching)
  obtain ⟨written, enabled⟩ := calls (sequel ++ [.openJournal none]) branching 3 _ _ rfl core
  refine ⟨?_, enabled (-5), ⟨by decide, ?_⟩, ?_, ?_⟩
  · rw [written .warn (ascii "m") [.bool true, ratio], if_pos (by decide), object]
    simp (disch := decide) only [List.flatMap_cons, List.flatMap_nil, Link.attributes, ratio,
      Attribute.read, Attribute.missingKey, List.cons_append, List.nil_append, json_of_plain,
      Value.json, jsonText_of_plain]
    rfl
  · exact (splits (.root 0) [.int 7, .text (ascii "a"), .null] [.text (ascii "b")] (by decide)).1
  · exact default [.push 0 .zero 1, .request (.setDefault none)] 2 _ rfl (by decide) (by decide)
      .info (ascii "m") []
  · exact journal sequel branching _ _ rfl core

end OperandStack.Log
