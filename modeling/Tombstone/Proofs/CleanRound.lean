import Tombstone.Proofs.CollectionLeaves
import Tombstone.Proofs.CursorHistory
import Tombstone.Proofs.RoundOrder

/-!
# A round without failures clears the way for a collection

Suppose that all held records lie before now and after the first instant. A session that a dispatch
round leaves alone has its cursor behind all of them already, as its window starts before the cursor
and has none of them; a session that the round flushes with success has its cursor moved to now. So
after a round in which no flush fails, no session holds a record back, and the next collection
forgets every record, unless it retains them for want of sessions.
-/

namespace Tombstone

namespace State

/-- The cursor of a session, if it is connected, is later than every record held. -/
def PastAll (state : State) (session : SessionId) : Prop :=
  ∀ cursor, state.registry.cursor? session = some cursor →
    ∀ record ∈ state.ledger.records, record.deletedAt < cursor

section Round

variable {settings : Settings} {state : State} {session : SessionId} {now : Timestamp}

/-- A session with nothing pending is past all records, but for those of the very first instant. -/
theorem pastAll_of_idle (ordered : state.ledger.Ordered)
    (positive : ∀ record ∈ state.ledger.records, Timestamp.zero < record.deletedAt)
    (idle : state.hasNews settings session = false) : state.PastAll session := by
  intro cursor found record held
  rw [Timestamp.lt_iff]
  apply Nat.lt_of_not_le
  intro not_after
  have later : windowStart settings cursor < record.deletedAt :=
    windowStart_lt_of_le (positive record held) not_after
  rw [hasNews_of_mem ordered found held later] at idle
  cases idle

/-- A successful flush at a time after all records brings its session past them. -/
theorem pastAll_of_told (quiet : state.Quiet)
    (earlier : ∀ record ∈ state.ledger.records, record.deletedAt < state.clock.read.1.time)
    {summary : FlushSummary} (succeeded : (state.flush settings session).1 = .ok summary) :
    (state.flush settings session).2.PastAll session := by
  cases connected : state.registry.find? session with
  | none =>
      rw [flush_of_unknown connected] at succeeded
      cases succeeded
  | some entry =>
      rcases flush_ok quiet connected succeeded with
        ⟨delivery, _, _, _, _, refusal, _, _, _, _, _, after_eq⟩
      rw [after_eq]
      intro cursor found record held
      simp only [Registry.cursor?_adjust, if_true, connected, Option.map_some,
        Session.cursor_afterFlush, refusal, Option.some.injEq] at found
      have before_now := earlier record held
      rw [Timestamp.lt_iff] at before_now ⊢
      rw [← found, Timestamp.toNat_max]
      omega

/-- A visit without a refusal brings its session past all records before the time that is read. -/
theorem pastAll_visited (sound : state.Sound)
    (positive : ∀ record ∈ state.ledger.records, Timestamp.zero < record.deletedAt)
    (earlier : ∀ record ∈ state.ledger.records, record.deletedAt < state.clock.read.1.time)
    (clean : ¬RoundSummary.isRefusal (state.outcome settings session) = true) :
    (state.visited settings session).PastAll session := by
  cases news : state.hasNews settings session with
  | false =>
      rw [visited_of_idle news]
      exact pastAll_of_idle sound.ordered positive news
  | true =>
      rcases visited_of_news news with ⟨journal, visited_eq⟩
      have outcome_eq : state.outcome settings session =
          some (state.flush settings session).1 := by
        rw [outcome, if_pos news]
      rw [visited_eq]
      cases result : (state.flush settings session).1 with
      | ok summary => exact pastAll_of_told sound.quiet earlier result
      | error error =>
          cases error with
          | unknownSession named =>
              rw [result] at outcome_eq
              exact absurd outcome_eq (outcome_ne_unknown sound.quiet session named)
          | transport named index refusal =>
              rw [outcome_eq, result] at clean
              exact absurd rfl clean

/-- A session that is past all records stays so in a round, as cursors do not go back. -/
theorem PastAll.round (past : state.PastAll session) (sound : state.Sound)
    (order : List SessionId) : (order.foldl (visited settings) state).PastAll session := by
  intro after found record held
  rw [ledger_round sound order] at held
  have connected : state.registry.isConnected session = true := by
    rw [Registry.isConnected_iff_mem_ids, ← ids_foldl_visited sound.quiet order,
      ← Registry.isConnected_iff_mem_ids, Registry.isConnected_iff_cursor?]
    exact ⟨after, found⟩
  rcases Registry.isConnected_iff_cursor?.mp connected with ⟨before, before_eq⟩
  rcases moved_round settings sound before_eq order with ⟨reached, reached_eq, moved⟩
  obtain rfl : reached = after := Option.some.inj (reached_eq.symm.trans found)
  exact Nat.lt_of_lt_of_le (past before before_eq record held)
    (moved.latest.le before List.mem_cons_self)

/-- A round without a refusal brings every session that it visits past all records. -/
theorem pastAll_round {order : List SessionId} (sound : state.Sound)
    (positive : ∀ record ∈ state.ledger.records, Timestamp.zero < record.deletedAt)
    (earlier : ∀ record ∈ state.ledger.records, record.deletedAt < now)
    (still : state.clock.Shows now order.length)
    (clean : ∀ outcome ∈ outcomes settings state order, ¬RoundSummary.isRefusal outcome = true) :
    ∀ session ∈ order, (order.foldl (visited settings) state).PastAll session := by
  induction order generalizing state with
  | nil => simp
  | cons first rest ih =>
      rcases List.forall_mem_cons.mp clean with ⟨cleanFirst, cleanRest⟩
      have soundNext := sound.visited settings first
      have ledger_eq : (state.visited settings first).ledger = state.ledger :=
        ledger_visited sound.quiet
      refine List.forall_mem_cons.mpr ⟨?_, ?_⟩
      · rw [← still.first (Nat.succ_pos _)] at earlier
        exact (pastAll_visited sound positive earlier cleanFirst).round soundNext rest
      · rw [← ledger_eq] at positive earlier
        exact ih soundNext positive earlier (shows_visited settings first sound.quiet still)
          cleanRest

theorem shows_round (sound : state.Sound) {order : List SessionId} {readings : Nat}
    (still : state.clock.Shows now (readings + order.length)) :
    (order.foldl (visited settings) state).clock.Shows now readings := by
  induction order generalizing state with
  | nil => exact still
  | cons first rest ih =>
      exact ih (sound.visited settings first) (shows_visited settings first sound.quiet still)

/-- When every connected session is past all records, which all lie before now, the next watermark
lies behind them. -/
theorem lt_nextWatermark (distinct : state.registry.Distinct)
    (past : ∀ session, state.PastAll session)
    (earlier : ∀ record ∈ state.ledger.records, record.deletedAt < state.clock.read.1.time) :
    ∀ record ∈ state.ledger.records, record.deletedAt < state.nextWatermark.value := by
  intro record held
  rw [Timestamp.lt_iff]
  apply Nat.lt_of_not_le
  intro not_before
  have before_now := earlier record held
  rcases Watermark.value_le_iff.mp not_before with capped | ⟨⟨session, cursor⟩, visit_mem, within⟩
  · have now_lt := state.clock.read.1.time.toNat_lt
    simp only [Watermark.cap, Timestamp.le_iff, Timestamp.lt_iff, Timestamp.toNat_advance]
      at capped before_now
    omega
  · have behind := past session cursor ((Registry.mem_cursors_iff distinct).mp visit_mem) record held
    simp only [Timestamp.le_iff, Timestamp.lt_iff] at within behind
    omega

/-- The watermark is unattended just if nobody is connected. -/
theorem isUnattended_nextWatermark_iff :
    state.nextWatermark.isUnattended = true ↔ state.registry.ids = [] := by
  constructor
  · intro unattended
    have no_visit : state.registry.cursors = [] := by
      apply Classical.byContradiction
      intro attended
      rw [nextWatermark, Watermark.not_isUnattended attended] at unattended
      cases unattended
    exact Registry.ids_eq_nil_iff.mpr no_visit
  · intro nobody
    have no_visit : state.registry.cursors = [] := Registry.ids_eq_nil_iff.mp nobody
    simp [nextWatermark, no_visit, Watermark.ofVisits, slowest, Watermark.isUnattended]

/-- Nobody is connected, and the rules retain what is held for sessions to come. -/
def Retains (state : State) (rules : CollectionRules) : Prop :=
  state.registry.ids = [] ∧ rules.policy = .retainAll

/-- A collection that retains what is held removes nothing. -/
theorem collect_of_retains {rules : CollectionRules} (quiet : state.Quiet)
    (retains : state.Retains rules) :
    (state.collect rules).2.ledger = state.ledger ∧ (state.collect rules).1.removed = 0 := by
  rcases collect_cases rules quiet with
    ⟨_, skipped⟩ | ⟨_, _, journal, retained⟩ | ⟨_, attended, _⟩
  · rw [skipped]
    exact ⟨rfl, rfl⟩
  · rw [retained]
    exact ⟨rfl, rfl⟩
  · exact absurd ⟨isUnattended_nextWatermark_iff.mpr retains.1, retains.2⟩ attended

/-- Any other collection forgets all records, if they lie before the watermark. -/
theorem collect_of_all_before {rules : CollectionRules} (sound : state.Sound)
    (prunes : ¬state.Retains rules)
    (behind : ∀ record ∈ state.ledger.records, record.deletedAt < state.nextWatermark.value) :
    (state.collect rules).2.ledger.records = [] ∧
      (state.collect rules).1.removed = state.ledger.records.length := by
  rcases collect_cases rules sound.quiet with
    ⟨empty, skipped⟩ | ⟨_, ⟨unattended, policy⟩, _⟩ | ⟨_, _, journal, pruned⟩
  · have no_bucket : state.ledger.buckets = [] := by simpa [Ledger.hasBucket] using empty
    simp [skipped, Ledger.records, no_bucket, CollectionOutcome.removed]
  · exact absurd ⟨isUnattended_nextWatermark_iff.mp unattended, policy⟩ prunes
  · have none_left : (state.ledger.prune state.nextWatermark.value).records = [] := by
      rw [List.eq_nil_iff_forall_not_mem]
      intro record left
      rcases sound.ordered.mem_records_prune.mp left with ⟨held, not_before⟩
      exact absurd not_before (Nat.not_le_of_lt (behind record held))
    have parts := state.ledger.length_records_prune state.nextWatermark.value
    rw [none_left, List.length_nil, Nat.add_zero] at parts
    rw [pruned]
    exact ⟨none_left, parts.symm⟩

/-- When all records lie before the time that the clock keeps showing, a round without a failure
leaves every session past all of them. -/
theorem pastAll_of_no_failures {order : List SessionId} (sound : state.Sound)
    (positive : ∀ record ∈ state.ledger.records, Timestamp.zero < record.deletedAt)
    (earlier : ∀ record ∈ state.ledger.records, record.deletedAt < now)
    (still : state.clock.Shows now order.length)
    (visited : ∀ session ∈ state.registry.ids, session ∈ order)
    (clean : (state.flushAllIn settings order).1.failures = 0) (session : SessionId) :
    (state.flushAllIn settings order).2.PastAll session := by
  rw [flushAllIn_eq, RoundSummary.foldl_count] at clean
  have no_refusal : ∀ outcome ∈ outcomes settings state order,
      ¬RoundSummary.isRefusal outcome = true := by
    simpa using clean
  simp only [flushAllIn_eq]
  by_cases connected : session ∈ state.registry.ids
  · exact pastAll_round sound positive earlier still no_refusal session (visited session connected)
  · intro cursor found
    rw [← ids_foldl_visited sound.quiet order, ← Registry.isConnected_iff_mem_ids,
      Registry.isConnected_iff_cursor?] at connected
    exact absurd ⟨cursor, found⟩ connected

end Round

end State

namespace Service

/-- If no flush of a dispatch round fails while the clock shows a time after all records, the next
collection at that time empties the ledger, unless nobody is connected and the policy is to retain
everything; then it removes nothing. -/
theorem collect_after_clean_round (service : Service) (order : List SessionId) (now : Timestamp)
    (sound : service.state.Sound)
    (visited : ∀ session ∈ service.state.registry.ids, session ∈ order)
    (still : service.state.clock.Shows now (order.length + 1))
    (stamped : ∀ record ∈ service.state.ledger.records,
      Timestamp.zero < record.deletedAt ∧ record.deletedAt < now)
    (clean : (service.state.flushAllIn service.settings order).1.failures = 0) :
    let collected := (service.take (.flushAll order)).collect
    (service.state.Retains service.collector.rules →
      collected.2.state.ledger = service.state.ledger ∧ collected.1.removed = 0) ∧
    (¬service.state.Retains service.collector.rules →
      collected.2.state.ledger.records = [] ∧ collected.2.state.ledger.hasBucket = false ∧
        collected.1.removed = service.state.ledger.records.length) := by
  intro collected
  let round := (service.state.flushAllIn service.settings order).2
  have soundRound : round.Sound := sound.flushAllIn service.settings order
  have round_eq : round = order.foldl (State.visited service.settings) service.state := by
    simp only [round, State.flushAllIn_eq]
  have ledger_eq : round.ledger = service.state.ledger := by
    rw [round_eq, State.ledger_round sound order]
  have retains_iff : round.Retains service.collector.rules ↔
      service.state.Retains service.collector.rules := by
    rw [State.Retains, State.Retains, round_eq, State.ids_foldl_visited sound.quiet order]
  rw [← retains_iff]
  refine ⟨fun retains => ?_, fun prunes => ?_⟩
  · rw [← ledger_eq]
    exact State.collect_of_retains soundRound.quiet retains
  · have now_eq : round.clock.read.1.time = now := by
      rw [round_eq]
      rw [Nat.add_comm] at still
      exact (State.shows_round sound still).first Nat.one_pos
    have stillRound : service.state.clock.Shows now order.length := still.fewer
    have past := State.pastAll_of_no_failures sound (fun record held => (stamped record held).1)
      (fun record held => (stamped record held).2) stillRound visited clean
    have earlier : ∀ record ∈ round.ledger.records, record.deletedAt < round.clock.read.1.time := by
      rw [ledger_eq, now_eq]
      exact fun record held => (stamped record held).2
    have behind := State.lt_nextWatermark soundRound.distinct past earlier
    rcases State.collect_of_all_before soundRound prunes behind with ⟨none_left, removed_eq⟩
    have no_bucket : collected.2.state.ledger.hasBucket = false := by
      have ordered := (soundRound.collect service.collector.rules).ordered
      apply Bool.eq_false_iff.mpr
      intro some_bucket
      rcases ordered.exists_mem_records some_bucket with ⟨record, held⟩
      rw [none_left] at held
      cases held
    exact ⟨none_left, no_bucket, ledger_eq ▸ removed_eq⟩

/-- One session is flushed, for one nothing is pending as its window starts at the last record, and
one is ahead of the clock. -/
theorem collect_after_clean_round_of_three :
    let viewer : SessionId := ⟨"viewer"⟩
    let told : SessionId := ⟨"told"⟩
    let ahead : SessionId := ⟨"ahead"⟩
    let steps : List Step :=
      [.act (.attach viewer ⟨10⟩ ⟨10⟩), .act (.attach told ⟨20⟩ ⟨109⟩),
        .act (.attach ahead ⟨30⟩ ⟨500⟩), .act (.register viewer 2 "viewer"),
        .record (.ofNat 1) ⟨1⟩, .record (.ofNat 2) ⟨60⟩, .record (.ofNat 3) ⟨99⟩]
    let service := (start .pairs (.manual .direct ⟨100⟩)).run steps
    let order := [ahead, viewer, told]
    (∀ session ∈ service.state.registry.ids, session ∈ order) ∧
      service.state.clock.Shows ⟨100⟩ (order.length + 1) ∧
      (∀ record ∈ service.state.ledger.records,
        Timestamp.zero < record.deletedAt ∧ record.deletedAt < ⟨100⟩) ∧
      (service.state.flushAllIn service.settings order).1.failures = 0 ∧
      (service.state.flushAllIn service.settings order).1.flushed = 1 ∧
      service.state.ledger.records.length = 3 ∧
      let collected := (service.take (.flushAll order)).collect
      (service.state.Retains service.collector.rules →
        collected.2.state.ledger = service.state.ledger ∧ collected.1.removed = 0) ∧
      (¬service.state.Retains service.collector.rules →
        collected.2.state.ledger.records = [] ∧ collected.2.state.ledger.hasBucket = false ∧
          collected.1.removed = service.state.ledger.records.length) := by
  intro viewer told ahead steps service order
  have sound : service.state.Sound := sound_run (State.sound_start _) steps
  have visited : ∀ session ∈ service.state.registry.ids, session ∈ order := by decide
  have still : service.state.clock.Shows ⟨100⟩ (order.length + 1) := by decide
  have stamped : ∀ record ∈ service.state.ledger.records,
      Timestamp.zero < record.deletedAt ∧ record.deletedAt < ⟨100⟩ := by decide
  have clean : (service.state.flushAllIn service.settings order).1.failures = 0 := by
    decide +kernel
  have flushed : (service.state.flushAllIn service.settings order).1.flushed = 1 := by
    decide +kernel
  exact ⟨visited, still, stamped, clean, flushed, by decide,
    collect_after_clean_round service order ⟨100⟩ sound visited still stamped clean⟩

end Service

end Tombstone
