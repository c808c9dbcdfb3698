import BiomeAtlas.Proofs.Counting

/-! # Sessions

The generator of a tile may call the store again, and ask for other tiles or even for the one that
it is about to make. Whatever is called for, the number of stored tiles is kept right, nothing that
is stored is changed or dropped, and each request is answered from memory or by one run of its
generator (`TileStore.Session.calls_are_reliable`).

To speak of all calls, nested ones included, a session is run with a journal (`Session.observed`).
Generators note their runs in it themselves, and whether they run is still up to `TileStore.fetch`.
The journal does not change the run (`Session.run_eq_observed`). What it says of the store before
and after it is `TileStore.Records`: this holds of one number handed out, of one request answered
from memory, of the journal of a generator together with the answer to its request, and of one
journal after another, and so of sessions (`Session.observed_induction`).
-/
namespace BiomeAtlas

namespace TileStore

/-! ## Journals -/

/-- A request for a tile that has been answered. -/
structure Answer where
  /-- The key that was asked for. -/
  key : TileKey
  /-- The store when it was asked for. -/
  before : TileStore
  /-- The answer. -/
  tile : Grid
  /-- The store when the answer was given. -/
  after : TileStore

/-- One run of a generator. -/
structure Making where
  /-- The requests that were answered meanwhile, at any depth. -/
  answers : List Answer
  /-- The tile that was made. -/
  tile : Grid
  /-- The store when the generator returned. -/
  store : TileStore

/-- An answered request and the runs of its generator. -/
structure Visit extends Answer where
  /-- The runs, first to last. -/
  makings : List Making

/-- A call that has returned. -/
inductive Event where
  /-- A number was handed out. -/
  | registered (number : UInt32) (after : TileStore)
  /-- A tile was asked for. -/
  | fetched (visit : Visit)

namespace Event

/-- The store afterwards. -/
def after : Event → TileStore
  | registered _ store => store
  | fetched visit => visit.after

/-- The number that was handed out. -/
def number? : Event → Option UInt32
  | registered number _ => some number
  | fetched _ => none

/-- The request that was answered. -/
def answer? : Event → Option Answer
  | registered .. => none
  | fetched visit => some visit.toAnswer

/-- The runs of the generator that the call was given. -/
def makings : Event → List Making
  | registered .. => []
  | fetched visit => visit.makings

end Event

/-- The calls of a session, nested ones included, in the order in which they returned. -/
abbrev Journal := List Event

namespace Journal

/-- The numbers that were handed out. -/
def numbers (journal : Journal) : List UInt32 :=
  journal.filterMap Event.number?

/-- The requests that were answered. -/
def answers (journal : Journal) : List Answer :=
  journal.filterMap Event.answer?

/-- The runs of generators. -/
def makings (journal : Journal) : List Making :=
  journal.flatMap Event.makings

theorem numbers_append (journal more : Journal) :
    numbers (journal ++ more) = journal.numbers ++ more.numbers :=
  List.filterMap_append

theorem answers_append (journal more : Journal) :
    answers (journal ++ more) = journal.answers ++ more.answers :=
  List.filterMap_append

theorem makings_append (journal more : Journal) :
    makings (journal ++ more) = journal.makings ++ more.makings :=
  List.flatMap_append

theorem makings_fetched (visit : Visit) : makings [.fetched visit] = visit.makings :=
  List.append_nil _

end Journal

/-- A generator that notes each of its runs, besides the journal of what it asks for. -/
def noting (making : TileStore → (Grid × TileStore) × Journal) :
    StateT TileStore (StateM (List Making × Journal)) Grid :=
  fun store (makings, journal) =>
    let ((tile, made), nested) := making store
    ((tile, made), makings ++ [⟨nested.answers, tile, made⟩], journal ++ nested)

/-- Asks for a tile, and looks at what the generator has noted. -/
def observe (key : TileKey) (making : TileStore → (Grid × TileStore) × Journal)
    (store : TileStore) : Visit × Journal :=
  let ((tile, after), makings, journal) := ((fetch key (noting making)).run store).run ([], [])
  (⟨⟨key, store, tile, after⟩, makings⟩, journal)

/-- Runs a session with a journal. -/
def Session.observed : Session → TileStore → (Grid × TileStore) × Journal
  | .finish tile, store => ((tile, store), [])
  | .register next, store =>
    let (number, later) := store.register
    let (ended, journal) := (next number).observed later
    (ended, .registered number later :: journal)
  | .fetch key generate next, store =>
    let (visit, nested) := observe key generate.observed store
    let (ended, journal) := (next visit.tile).observed visit.after
    (ended, nested ++ [.fetched visit] ++ journal)

/-! ## Asking for a tile -/

/-- Asking for a tile while other state is kept along. -/
theorem run_fetch_run {σ : Type} {key : TileKey} {generate : StateT TileStore (StateM σ) Grid}
    {store : TileStore} {state : σ} :
    ((fetch key generate).run store).run state =
      match store.find? key with
      | some tile => ((tile, store), state)
      | none =>
        let ((tile, made), later) := (generate.run store).run state
        (keep key tile made, later) := by
  unfold fetch
  change StateT.run
    (StateT.run (match store.find? key with | some tile => _ | none => _) store) state = _
  cases store.find? key <;> rfl

/-- **A request and its observation**: it is answered from memory, or the tile is made and offered
to the store. -/
theorem observe_cases (key : TileKey) (making : TileStore → (Grid × TileStore) × Journal)
    (store : TileStore) :
    (∃ tile, store.find? key = some tile ∧
      observe key making store = (⟨⟨key, store, tile, store⟩, []⟩, [])) ∨
    (store.find? key = none ∧ ∃ tile made nested, making store = ((tile, made), nested) ∧
      observe key making store = (⟨⟨key, store, (keep key tile made).1, (keep key tile made).2⟩,
        [⟨nested.answers, tile, made⟩]⟩, nested)) := by
  unfold observe
  rw [run_fetch_run]
  cases store.find? key with
  | some tile => exact .inl ⟨tile, rfl, rfl⟩
  | none => exact .inr ⟨rfl, _, _, _, rfl, rfl⟩

/-- A request that is not answered from memory runs the generator, which is counted. -/
theorem Session.run_fetch {key : TileKey} {generate : Session} {next : Grid → Session}
    {store : TileStore} {count : Nat} :
    ((Session.fetch key generate next).run.run store).run count =
      match store.find? key with
      | some tile => ((next tile).run.run store).run count
      | none =>
        let ((tile, made), later) := (generate.run.run store).run (count + 1)
        ((next (keep key tile made).1).run.run (keep key tile made).2).run later := by
  simp only [Session.run, StateT.run_bind, run_fetch_run]
  cases store.find? key <;> rfl

/-- **A journal does not change the run.** The session ends with the same tile and the same store,
and the journal has all the runs of generators that are counted. -/
theorem Session.run_eq_observed : ∀ (session : Session) (store : TileStore) (count : Nat),
    (session.run.run store).run count =
      ((session.observed store).1, count + (session.observed store).2.makings.length)
  | .finish tile, store, count => rfl
  | .register next, store, count => run_eq_observed (next store.register.1) store.register.2 count
  | .fetch key generate next, store, count => by
      rw [run_fetch, observed]
      rcases observe_cases key generate.observed store with ⟨tile, hfind, hobserve⟩ |
        ⟨hfind, tile, made, nested, hmaking, hobserve⟩
      · rw [hfind, hobserve]
        exact run_eq_observed (next tile) store count
      · rw [hfind, hobserve]
        have hgenerate := run_eq_observed generate store (count + 1)
        rw [hmaking] at hgenerate
        simp only [hgenerate, run_eq_observed (next _), Journal.makings_append, List.length_append,
          Journal.makings_fetched, List.length_singleton]
        refine congrArg (Prod.mk _) ?_
        omega

/-- **Induction over a session**, for what relates a journal to the store before and after it. -/
theorem Session.observed_induction {P : TileStore → Journal → TileStore → Prop}
    (nothing : ∀ store, P store [] store) (append : ∀ {store next later journal more},
      P store journal next → P next more later → P store (journal ++ more) later)
    (register : ∀ store, P store [.registered store.register.1 store.register.2] store.register.2)
    (hit : ∀ {store key tile}, store.find? key = some tile →
      P store [.fetched ⟨⟨key, store, tile, store⟩, []⟩] store)
    (offer : ∀ {store key tile made nested}, store.find? key = none → P store nested made →
      P store (nested ++ [.fetched ⟨⟨key, store, (keep key tile made).1, (keep key tile made).2⟩,
        [⟨nested.answers, tile, made⟩]⟩]) (keep key tile made).2) :
    ∀ (session : Session) (store : TileStore),
      P store (session.observed store).2 (session.observed store).1.2 := by
  intro session
  induction session with
  | finish tile => exact nothing
  | register next ih =>
    exact fun store => append (register store) (ih store.register.1 store.register.2)
  | fetch key generate next ihGenerate ihNext =>
      intro store
      have hrequest : P store ((observe key generate.observed store).2 ++
        [.fetched (observe key generate.observed store).1])
          (observe key generate.observed store).1.after := by
        rcases observe_cases key generate.observed store with ⟨tile, hfind, hobserve⟩ |
          ⟨hfind, tile, made, nested, hmaking, hobserve⟩
        · rw [hobserve]
          exact hit hfind
        · rw [hobserve]
          have hnested := ihGenerate store
          rw [hmaking] at hnested
          exact offer hfind hnested
      exact append hrequest (ihNext _ _)

/-! ## Nested calls -/

/-- The requests that were answered while a generator ran are requests of the journal, too. -/
def Journal.Nests (journal : Journal) : Prop :=
  ∀ visit, .fetched visit ∈ journal → ∀ making ∈ visit.makings, making.answers ⊆ journal.answers

theorem Journal.Nests.append {journal more : Journal} (h : journal.Nests) (h' : more.Nests) :
    Nests (journal ++ more) := by
  intro visit hvisit making hmaking
  rw [answers_append]
  rcases List.mem_append.mp hvisit with hvisit | hvisit
  · exact List.subset_append_of_subset_left _ (h visit hvisit making hmaking)
  · exact List.subset_append_of_subset_right _ (h' visit hvisit making hmaking)

/-- A generator that has run, and then the answer to its request. -/
theorem Journal.Nests.offer {nested : Journal} (h : nested.Nests) (answer : Answer) (tile : Grid)
    (made : TileStore) :
    Nests (nested ++ [.fetched ⟨answer, [⟨nested.answers, tile, made⟩]⟩]) := by
  intro visit hvisit making hmaking
  rw [answers_append]
  refine List.subset_append_of_subset_left _ ?_
  rcases List.mem_append.mp hvisit with hvisit | hvisit
  · exact h visit hvisit making hmaking
  · cases List.mem_singleton.mp hvisit
    cases List.mem_singleton.mp hmaking
    exact List.Subset.refl _

theorem Session.nests_observed (session : Session) (store : TileStore) :
    (session.observed store).2.Nests := by
  refine @observed_induction (fun _ journal _ => journal.Nests) (fun _ visit hvisit => ?_) .append
    (fun _ visit hvisit => ?_)
    (fun _ visit hvisit making hmaking => ?_) (fun _ hnested => hnested.offer _ _ _) session store
  · cases hvisit
  · cases List.mem_singleton.mp hvisit
  · cases List.mem_singleton.mp hvisit
    cases hmaking

/-! ## What is promised -/

/-- Every stored tile is still the stored one later. -/
def KeptBy (store later : TileStore) : Prop :=
  ∀ key tile, store.find? key = some tile → later.find? key = some tile

/-- The answer to the request has put a tile under its key. -/
def Answer.Stores (answer : Answer) (key : TileKey) : Prop :=
  answer.key = key ∧ ¬ answer.before.Holds key ∧ answer.after.Holds key

/-- **A request to a reliable store.** No stored tile gets lost. What is stored is the answer; what
is not is made once, and stored if there is room by then, or if a request of the generator has
stored it in the meantime. -/
structure Visit.Reliable (visit : Visit) (capacity : Nat) : Prop where
  keptBy : visit.before.KeptBy visit.after
  of_stored : ∀ tile, visit.before.find? visit.key = some tile → visit.tile = tile ∧
    visit.makings = []
  of_absent : visit.before.find? visit.key = none → ∃ making, visit.makings = [making] ∧
    (visit.after.Holds visit.key ↔
      (∃ answer ∈ making.answers, answer.Stores visit.key) ∨ making.store.stored < capacity)

/-- **What a journal says** of the store before and after it. -/
structure Records (store : TileStore) (journal : Journal) (later : TileStore) : Prop where
  capacity_eq : later.capacity = store.capacity
  keptBy : store.KeptBy later
  counted : store.Counted → later.Counted
  holds_iff : ∀ key, later.Holds key ↔ store.Holds key ∨ ∃ answer ∈ journal.answers,
    answer.Stores key
  reliable : ∀ visit, .fetched visit ∈ journal → visit.Reliable store.capacity
  events_counted : store.Counted → ∀ event ∈ journal, event.after.Counted ∧
    event.after.capacity = store.capacity
  keeps_earlier : ∀ event ∈ journal, store.KeptBy event.after
  later_keeps : ∀ event ∈ journal, event.after.KeptBy later
  in_order : journal.Pairwise fun event other => event.after.KeptBy other.after
  number_eq : ∀ i number, journal.numbers[i]? = some number →
    number = store.nextStage + UInt32.ofNat i
  nextStage_eq : later.nextStage = store.nextStage + UInt32.ofNat journal.numbers.length

namespace KeptBy
variable {store next later : TileStore}

theorem refl (store : TileStore) : store.KeptBy store :=
  fun _ _ h => h

theorem trans (h : store.KeptBy next) (h' : next.KeptBy later) : store.KeptBy later :=
  fun key tile hfind => h' key tile (h key tile hfind)

theorem insert {key : TileKey} (hnone : store.find? key = none) (tile : Grid) :
    store.KeptBy (store.insert key tile) := by
  intro other found hfind
  rw [find?_insert, if_neg]
  · exact hfind
  · rintro rfl
    rw [hnone] at hfind
    cases hfind

end KeptBy

/-! ## Offering a tile -/

section Offer
variable (key : TileKey) (tile : Grid) (store : TileStore)

theorem capacity_keep : (keep key tile store).2.capacity = store.capacity := by
  rcases store.keep_cases key tile with ⟨-, hkeep⟩ | ⟨_, -, hkeep⟩ | ⟨-, -, hkeep⟩ <;>
    simp only [hkeep, insert]

theorem nextStage_keep : (keep key tile store).2.nextStage = store.nextStage := by
  rcases store.keep_cases key tile with ⟨-, hkeep⟩ | ⟨_, -, hkeep⟩ | ⟨-, -, hkeep⟩ <;>
    simp only [hkeep, insert]

theorem keptBy_keep : store.KeptBy (keep key tile store).2 := by
  rcases store.keep_cases key tile with ⟨-, hkeep⟩ | ⟨_, -, hkeep⟩ | ⟨-, hnone, hkeep⟩
  · rw [hkeep]; exact .refl store
  · rw [hkeep]; exact .refl store
  · rw [hkeep]; exact .insert hnone tile

theorem counted_keep (h : store.Counted) : (keep key tile store).2.Counted := by
  rcases store.keep_cases key tile with ⟨-, hkeep⟩ | ⟨_, -, hkeep⟩ | ⟨hroom, hnone, hkeep⟩
  · rw [hkeep]; exact h
  · rw [hkeep]; exact h
  · rw [hkeep]
    refine ⟨?_, hroom⟩
    rw [insert, h.stored_eq, size_insert hnone]

/-- With room, the key is taken afterwards, whether or not it was before. -/
theorem holds_keep_iff {other : TileKey} : (keep key tile store).2.Holds other ↔
    store.Holds other ∨ (key = other ∧ store.stored < store.capacity) := by
  rcases store.keep_cases key tile with
    ⟨hfull, hkeep⟩ | ⟨existing, hfind, hkeep⟩ | ⟨hroom, -, hkeep⟩
  · rw [hkeep, or_iff_left fun h => Nat.not_lt.mpr hfull h.2]
  · rw [hkeep]
    refine ⟨.inl, ?_⟩
    rintro (hholds | ⟨rfl, -⟩)
    · exact hholds
    · exact ⟨existing, hfind⟩
  · rw [hkeep, holds_insert_iff, or_comm, and_iff_left hroom]

end Offer

namespace Records
variable {store next later : TileStore} {journal more : Journal}

theorem refl (store : TileStore) : Records store [] store where
  capacity_eq := rfl
  keptBy := .refl store
  counted h := h
  holds_iff key := by simp [Journal.answers]
  reliable _ h := by cases h
  events_counted _ _ h := by cases h
  keeps_earlier _ h := by cases h
  later_keeps _ h := by cases h
  in_order := .nil
  number_eq _ _ h := by cases h
  nextStage_eq := (UInt32.add_zero _).symm

/-- One journal after another. -/
theorem trans (h : Records store journal next) (h' : Records next more later) :
    Records store (journal ++ more) later where
  capacity_eq := h'.capacity_eq.trans h.capacity_eq
  keptBy := h.keptBy.trans h'.keptBy
  counted hcounted := h'.counted (h.counted hcounted)
  holds_iff key := by
    rw [h'.holds_iff, h.holds_iff, Journal.answers_append, or_assoc]
    simp only [List.mem_append, or_and_right, exists_or]
  reliable visit hvisit := by
    rcases List.mem_append.mp hvisit with hvisit | hvisit
    · exact h.reliable visit hvisit
    · exact h.capacity_eq ▸ h'.reliable visit hvisit
  events_counted hcounted event hevent := by
    rcases List.mem_append.mp hevent with hevent | hevent
    · exact h.events_counted hcounted event hevent
    · exact h.capacity_eq ▸ h'.events_counted (h.counted hcounted) event hevent
  keeps_earlier event hevent := by
    rcases List.mem_append.mp hevent with hevent | hevent
    · exact h.keeps_earlier event hevent
    · exact h.keptBy.trans (h'.keeps_earlier event hevent)
  later_keeps event hevent := by
    rcases List.mem_append.mp hevent with hevent | hevent
    · exact (h.later_keeps event hevent).trans h'.keptBy
    · exact h'.later_keeps event hevent
  in_order := List.pairwise_append.mpr ⟨h.in_order, h'.in_order, fun event hevent other hother =>
    (h.later_keeps event hevent).trans (h'.keeps_earlier other hother)⟩
  number_eq i number hnumber := by
    rw [Journal.numbers_append] at hnumber
    by_cases hlt : i < journal.numbers.length
    · rw [List.getElem?_append_left hlt] at hnumber
      exact h.number_eq i number hnumber
    · have hle := Nat.le_of_not_lt hlt
      rw [List.getElem?_append_right hle] at hnumber
      rw [h'.number_eq _ number hnumber, h.nextStage_eq, UInt32.add_assoc, ← UInt32.ofNat_add,
        Nat.add_sub_cancel' hle]
  nextStage_eq := by
    rw [h'.nextStage_eq, h.nextStage_eq, UInt32.add_assoc, ← UInt32.ofNat_add,
      Journal.numbers_append, List.length_append]

/-- Handing out a number. -/
theorem register (store : TileStore) :
    Records store [.registered store.register.1 store.register.2] store.register.2 where
  capacity_eq := rfl
  keptBy := .refl store
  counted h := ⟨h.stored_eq, h.stored_le⟩
  holds_iff key := by
    refine ⟨.inl, ?_⟩
    rintro (hholds | ⟨_, hanswer, -⟩)
    · exact hholds
    · cases hanswer
  reliable visit h := by cases List.mem_singleton.mp h
  events_counted h event hevent := by
    cases List.mem_singleton.mp hevent
    exact ⟨⟨h.stored_eq, h.stored_le⟩, rfl⟩
  keeps_earlier event hevent := by
    cases List.mem_singleton.mp hevent
    exact .refl store
  later_keeps event hevent := by
    cases List.mem_singleton.mp hevent
    exact .refl _
  in_order := List.pairwise_singleton ..
  number_eq i number h := by
    obtain ⟨hlt, hnumber⟩ := List.getElem?_eq_some_iff.mp h
    obtain rfl : i = 0 := Nat.lt_one_iff.mp hlt
    exact hnumber.symm.trans (UInt32.add_zero _).symm
  nextStage_eq := rfl

/-- Answering a request. -/
theorem fetched {visit : Visit} (hcapacity : visit.after.capacity = store.capacity)
    (hkept : store.KeptBy visit.after) (hcounted : store.Counted → visit.after.Counted)
    (hholds : ∀ key, visit.after.Holds key → store.Holds key ∨ visit.Stores key)
    (hreliable : visit.Reliable store.capacity)
    (hnumber : visit.after.nextStage = store.nextStage) :
    Records store [.fetched visit] visit.after where
  capacity_eq := hcapacity
  keptBy := hkept
  counted := hcounted
  holds_iff key := by
    refine ⟨fun hafter => (hholds key hafter).imp_right fun hstores =>
      ⟨_, List.mem_singleton_self _, hstores⟩, ?_⟩
    rintro (⟨tile, hfind⟩ | ⟨answer, hanswer, hstores⟩)
    · exact ⟨tile, hkept key tile hfind⟩
    · cases List.mem_singleton.mp hanswer
      exact hstores.2.2
  reliable other hother := by
    cases List.mem_singleton.mp hother
    exact hreliable
  events_counted h event hevent := by
    cases List.mem_singleton.mp hevent
    exact ⟨hcounted h, hcapacity⟩
  keeps_earlier event hevent := by
    cases List.mem_singleton.mp hevent
    exact hkept
  later_keeps event hevent := by
    cases List.mem_singleton.mp hevent
    exact .refl _
  in_order := List.pairwise_singleton ..
  number_eq _ _ h := by cases h
  nextStage_eq := hnumber.trans (UInt32.add_zero _).symm

/-- An answer from memory. -/
theorem hit {key : TileKey} {tile : Grid} (hfind : store.find? key = some tile) :
    Records store [.fetched ⟨⟨key, store, tile, store⟩, []⟩] store := by
  refine fetched rfl (.refl store) id (fun _ => .inl) ⟨.refl store, fun stored hstored => ?_,
    fun hnone => ?_⟩ rfl
  · exact ⟨Option.some.inj (hfind.symm.trans hstored), rfl⟩
  · cases hfind.symm.trans hnone

/-- An answer from a generator, after the calls of the generator. -/
theorem offer {key : TileKey} {tile : Grid} {made : TileStore} {nested : Journal}
    (hnone : store.find? key = none) (h : Records store nested made) :
    let visit : Visit := ⟨⟨key, store, (keep key tile made).1, (keep key tile made).2⟩,
      [⟨nested.answers, tile, made⟩]⟩
    Records store (nested ++ [.fetched visit]) visit.after := by
  intro visit
  have habsent : ¬ store.Holds key := by
    rintro ⟨stored, hstored⟩
    cases hnone.symm.trans hstored
  have hkept : made.KeptBy visit.after := keptBy_keep key tile made
  refine h.trans (fetched (capacity_keep key tile made) hkept (counted_keep key tile made)
    (fun other hother => ?_) ⟨h.keptBy.trans hkept, fun stored hstored => ?_, fun _ => ⟨_, rfl, ?_⟩⟩
      (nextStage_keep key tile made))
  · rcases (holds_keep_iff key tile made).mp hother with hmade | ⟨rfl, -⟩
    · exact .inl hmade
    · exact .inr ⟨rfl, habsent, hother⟩
  · cases hnone.symm.trans hstored
  · -- the key was absent, so the generator can only have found it taken if it has asked for it
    rw [holds_keep_iff, h.holds_iff, or_iff_right habsent, and_iff_right rfl]

end Records

/-! ## Sessions -/

/-- **The journal of a session is right.** -/
theorem Session.records_observed (session : Session) (store : TileStore) :
    Records store (session.observed store).2 (session.observed store).1.2 :=
  observed_induction .refl .trans .register .hit .offer session store

/-- Numbers in order are different until they wrap. -/
theorem Records.nodup_numbers {store later : TileStore} {journal : Journal}
    (h : Records store journal later) :
    (journal.numbers.take (2 ^ 32)).Nodup := by
  rw [List.nodup_iff_getElem?_ne_getElem?]
  intro i j hij hj hsame
  have hbound : j < 2 ^ 32 := Nat.lt_of_lt_of_le hj (List.length_take_le _ _)
  obtain ⟨number, hnumber⟩ : ∃ number, (journal.numbers.take (2 ^ 32))[j]? = some number :=
    ⟨_, List.getElem?_eq_getElem hj⟩
  have hi := hsame.trans hnumber
  rw [List.getElem?_take_of_lt (Nat.lt_trans hij hbound)] at hi
  rw [List.getElem?_take_of_lt hbound] at hnumber
  have hwords : UInt32.ofNat i = UInt32.ofNat j :=
    UInt32.add_right_inj _ |>.mp
      ((h.number_eq i number hi).symm.trans (h.number_eq j number hnumber))
  have hnat := congrArg UInt32.toNat hwords
  rw [UInt32.toNat_ofNat_of_lt' (Nat.lt_trans hij hbound), UInt32.toNat_ofNat_of_lt' hbound] at hnat
  exact absurd hnat (Nat.ne_of_lt hij)

/-- **Calls are reliable**, however deep they are nested in a session that starts with an empty
store. After every call the number of stored tiles is right, and the tiles that are stored by then
stay as they are. A request is answered from memory if it can be, and else by one run of its
generator. Numbers repeat only after all of them have been handed out. -/
theorem Session.calls_are_reliable (capacity : Nat) (session : Session) :
    let ended := (session.observed (.empty capacity)).1
    let journal := (session.observed (.empty capacity)).2
    (∀ count, (session.run.run (.empty capacity)).run count =
      (ended, count + journal.makings.length)) ∧ journal.Nests ∧
    (∀ event ∈ journal, event.after.stored = event.after.tiles.size ∧
      event.after.stored ≤ capacity) ∧
    (journal.Pairwise fun event other => event.after.KeptBy other.after) ∧
    (∀ event ∈ journal, event.after.KeptBy ended.2) ∧
    (∀ visit, .fetched visit ∈ journal → visit.Reliable capacity) ∧
    (journal.numbers.take (2 ^ 32)).Nodup := by
  intro ended journal
  have hrecords : Records (.empty capacity) journal ended.2 :=
    session.records_observed (.empty capacity)
  have hempty : (empty capacity).Counted := ⟨rfl, Nat.zero_le _⟩
  refine ⟨session.run_eq_observed (.empty capacity), session.nests_observed (.empty capacity),
    fun event hevent => ?_, hrecords.in_order, hrecords.later_keeps, hrecords.reliable,
    hrecords.nodup_numbers⟩
  obtain ⟨hcounted, hcapacity⟩ := hrecords.events_counted hempty event hevent
  exact ⟨hcounted.stored_eq, Nat.le_trans hcounted.stored_le (Nat.le_of_eq hcapacity)⟩

end TileStore

end BiomeAtlas
