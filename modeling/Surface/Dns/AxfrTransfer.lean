import Surface.Dns.Axfr

/-!
# Surface.Dns.AxfrTransfer

When a zone transfer counts as allowed.

* `CompleteTransfer`: the messages of a complete authoritative transfer, stated without the loop.
* `scan_closes_iff`: the state kept across records finds exactly the transfers that begin with an
  SOA of the zone and end with the first record that repeats it.
* `receive_ok_iff`: what one message must satisfy, and what it adds to the progress.
* `completes_iff`: message by message the loop checks `CompleteTransfer`.
* `checkAxfrEndpoint_allowed_iff`: the endpoint is reported as allowing transfers exactly when a
  complete transfer arrives and the stream then stays silent; the counts never leave their bounds.
-/

namespace Surface

section Transfer

variable {N Q : Type} [BEq N] [BEq Q]

/-- A message that decodes. -/
structure AxfrDelivery (N Q : Type) where
  bytes : Nat
  response : DnsResponse N Q

def AxfrDelivery.event (d : AxfrDelivery N Q) : AxfrEvent N Q := .message d.bytes (some d.response)

def transferAnswers (ds : List (AxfrDelivery N Q)) : List (AxfrRecord N) :=
  ds.flatMap fun d => d.response.answers

/-- The record is an SOA with this serial, owned by the zone. -/
def AxfrRecord.soaOf (zone : N) (serial : Nat) (record : AxfrRecord N) : Prop :=
  (record.name == zone) = true ∧ record.data = .soa serial

structure CompleteTransfer (request : AxfrRequest N Q) (ds : List (AxfrDelivery N Q)) : Prop where
  identified : ∀ d ∈ ds, d.response.id = request.id ∧ d.response.opCode = .query ∧
    d.response.responseCode = .noError
  questions : ∃ first later, ds = first :: later ∧
    (first.response.queries == request.queries) = true ∧
    ∀ d ∈ later, (d.response.queries == request.queries) = true ∨ d.response.queries = []
  authoritative : ∀ d ∈ ds, d.response.authoritative = true ∧ d.response.truncation = false
  messages : ds.length ≤ maxAxfrMessages
  bytes : (ds.map AxfrDelivery.bytes).sum ≤ maxAxfrBytes
  records : (transferAnswers ds).length ≤ maxAxfrRecords
  delimited : ∃ serial opening middle closing,
    transferAnswers ds = opening :: (middle ++ [closing]) ∧
      opening.soaOf request.zone serial ∧ closing.soaOf request.zone serial ∧
      ∀ record ∈ middle, ¬ record.soaOf request.zone serial
  closed : ∃ last, ds.getLast? = some last ∧ last.response.answers ≠ []

/-- Nothing but the end of the stream or of the drain window follows. -/
def silent (tail : List (AxfrEvent N Q)) : Prop :=
  ∀ event, tail.head? = some event → event = .endOfStream ∨ event = .timedOut

/-! ## Arithmetic of the counts -/

/-- The counts of an attempt stay within the limits. -/
def AxfrAttempt.Bounded (attempt : AxfrAttempt) : Prop :=
  attempt.messages ≤ maxAxfrMessages ∧ attempt.bytes ≤ maxAxfrBytes ∧
    attempt.records ≤ maxAxfrRecords

theorem exceeded_eq_none {attempt : AxfrAttempt} :
    attempt.exceeded = none ↔ attempt.Bounded := by
  unfold AxfrAttempt.exceeded AxfrAttempt.Bounded
  split
  · simp; omega
  · split
    · simp; omega
    · split
      · simp; omega
      · simp; omega

/-! ## The SOA delimiters -/

theorem scan_append (zone : N) (state : SoaState) (front back : List (AxfrRecord N)) :
    state.scan zone (front ++ back) = (state.scan zone front).bind (·.scan zone back) := by
  induction front generalizing state with
  | nil => rfl
  | cons record front ih =>
    simp only [List.cons_append, SoaState.scan]
    split
    · rfl
    · exact ih _

theorem scan_closed {zone : N} {state : SoaState} (h : state.closingSeen = true)
    {records : List (AxfrRecord N)} {state' : SoaState}
    (hs : state.scan zone records = some state') : records = [] := by
  cases records with
  | nil => rfl
  | cons record records =>
    rw [SoaState.scan, if_pos h] at hs
    cases hs

/-- Between the opening and the closing SOA. -/
structure SoaState.Open (state : SoaState) : Prop where
  seen : state.firstAnswerSeen = true
  notClosed : state.closingSeen = false
  counted : state.firstSerial.isSome = true → 1 ≤ state.soaCount

theorem step_closingSeen {zone : N} {state : SoaState} (h : state.Open) (record : AxfrRecord N) :
    (state.step zone record).closingSeen = true ↔
      ∃ serial, state.firstSerial = some serial ∧ record.soaOf zone serial := by
  unfold SoaState.step AxfrRecord.soaOf
  simp only [h.seen, if_true]
  cases hd : record.data with
  | other => simp [h.notClosed]
  | soa serial =>
    simp only [h.notClosed, Bool.false_or, Bool.and_eq_true, decide_eq_true_eq,
      AxfrData.soa.injEq]
    constructor
    · rintro ⟨⟨_, hname⟩, hserial⟩
      exact ⟨serial, hserial, hname, rfl⟩
    · rintro ⟨first, hserial, hname, rfl⟩
      have hcount := h.counted (by simp [hserial])
      refine ⟨⟨?_, hname⟩, hserial⟩
      unfold saturatingAdd
      omega

theorem step_open {zone : N} {state : SoaState} (h : state.Open) {record : AxfrRecord N}
    (hc : (state.step zone record).closingSeen = false) :
    (state.step zone record).Open ∧ (state.step zone record).firstSerial = state.firstSerial := by
  refine ⟨⟨?_, hc, fun hsome => ?_⟩, ?_⟩
  · unfold SoaState.step
    simp only [h.seen, if_true]
    cases record.data <;> simp [h.seen]
  · unfold SoaState.step at hsome ⊢
    simp only [h.seen, if_true] at hsome ⊢
    cases hd : record.data with
    | other =>
      simp only [hd] at hsome
      exact h.counted hsome
    | soa serial =>
      simp only [hd] at hsome ⊢
      have hcount := h.counted hsome
      unfold saturatingAdd
      omega
  · unfold SoaState.step
    simp only [h.seen, if_true]
    cases record.data <;> rfl

/-- Once open, the scan closes with the first record that repeats the opening SOA, which must be
the last one. -/
theorem scan_open_closes_iff {zone : N} {state : SoaState} (h : state.Open)
    (records : List (AxfrRecord N)) :
    (∃ state', state.scan zone records = some state' ∧ state'.closingSeen = true) ↔
      ∃ serial middle closing, state.firstSerial = some serial ∧ records = middle ++ [closing] ∧
        closing.soaOf zone serial ∧ ∀ record ∈ middle, ¬ record.soaOf zone serial := by
  induction records generalizing state with
  | nil =>
    constructor
    · rintro ⟨state', hs, hc⟩
      cases hs
      rw [h.notClosed] at hc
      cases hc
    · rintro ⟨serial, middle, closing, _, hnil, _⟩
      simp at hnil
  | cons record records ih =>
    have hscan : state.scan zone (record :: records) =
        (state.step zone record).scan zone records := by
      rw [SoaState.scan, if_neg (by simp [h.notClosed])]
    rw [hscan]
    cases hc : (state.step zone record).closingSeen with
    | true =>
      obtain ⟨serial, hserial, hsoa⟩ := (step_closingSeen h record).mp hc
      constructor
      · rintro ⟨state', hs, _⟩
        rw [scan_closed hc hs]
        exact ⟨serial, [], record, hserial, rfl, hsoa, fun r hr => absurd hr List.not_mem_nil⟩
      · rintro ⟨serial', middle, closing, hserial', hrecords, _, hmiddle⟩
        have heq : serial' = serial := Option.some.inj (hserial'.symm.trans hserial)
        subst heq
        cases middle with
        | nil =>
          obtain ⟨_, rfl⟩ := List.cons.inj hrecords
          exact ⟨_, rfl, hc⟩
        | cons first middle =>
          obtain ⟨rfl, _⟩ := List.cons.inj hrecords
          exact absurd hsoa (hmiddle record List.mem_cons_self)
    | false =>
      obtain ⟨hopen, hfirst⟩ := step_open h hc
      have hnot : ∀ serial, state.firstSerial = some serial → ¬ record.soaOf zone serial := by
        intro serial hserial hsoa
        rw [(step_closingSeen h record).mpr ⟨serial, hserial, hsoa⟩] at hc
        cases hc
      rw [ih hopen, hfirst]
      constructor
      · rintro ⟨serial, middle, closing, hserial, hrecords, hsoa, hmiddle⟩
        refine ⟨serial, record :: middle, closing, hserial, by rw [hrecords]; rfl, hsoa, ?_⟩
        intro r hr
        rcases List.mem_cons.mp hr with rfl | hr
        · exact hnot serial hserial
        · exact hmiddle r hr
      · rintro ⟨serial, middle, closing, hserial, hrecords, hsoa, hmiddle⟩
        cases middle with
        | nil =>
          obtain ⟨rfl, _⟩ := List.cons.inj hrecords
          exact absurd hsoa (hnot serial hserial)
        | cons first middle =>
          obtain ⟨rfl, hrest⟩ := List.cons.inj hrecords
          exact ⟨serial, middle, closing, hserial, hrest, hsoa,
            fun r hr => hmiddle r (List.mem_cons_of_mem record hr)⟩

/-- From the start, the scan closes exactly on SOA-delimited records. -/
theorem scan_closes_iff (zone : N) (records : List (AxfrRecord N)) :
    (∃ state', ({} : SoaState).scan zone records = some state' ∧ state'.closingSeen = true) ↔
      ∃ serial opening middle closing, records = opening :: (middle ++ [closing]) ∧
        opening.soaOf zone serial ∧ closing.soaOf zone serial ∧
        ∀ record ∈ middle, ¬ record.soaOf zone serial := by
  cases records with
  | nil => simp [SoaState.scan]
  | cons opening records =>
    have hscan : ({} : SoaState).scan zone (opening :: records) =
        (({} : SoaState).step zone opening).scan zone records := rfl
    have hfirst : ∀ serial, (({} : SoaState).step zone opening).firstSerial = some serial ↔
        opening.soaOf zone serial := by
      intro serial
      unfold SoaState.step AxfrRecord.soaOf AxfrRecord.serial?
      cases hd : opening.data <;> cases hn : opening.name == zone <;> simp
    have hopen : (({} : SoaState).step zone opening).Open := by
      unfold SoaState.step AxfrRecord.serial?
      cases hd : opening.data with
      | other => exact ⟨rfl, rfl, by simp⟩
      | soa serial => exact ⟨rfl, by simp [saturatingAdd], by simp [saturatingAdd]⟩
    rw [hscan, scan_open_closes_iff hopen]
    constructor
    · rintro ⟨serial, middle, closing, hserial, rfl, hsoa, hmiddle⟩
      exact ⟨serial, opening, middle, closing, rfl, (hfirst serial).mp hserial, hsoa, hmiddle⟩
    · rintro ⟨serial, opening', middle, closing, hrecords, hopening, hsoa, hmiddle⟩
      obtain ⟨rfl, rfl⟩ := List.cons.inj hrecords
      exact ⟨serial, middle, closing, (hfirst serial).mpr hopening, rfl, hsoa, hmiddle⟩

/-! ## One message -/

/-- A transfer under way: not closed, and every message so far had response code `NoError`. -/
structure AxfrProgress.Sound (progress : AxfrProgress) : Prop where
  notClosed : progress.soa.closingSeen = false
  code : progress.attempt.responseCode = none ∨
    progress.attempt.responseCode = some ResponseCode.noError.text

/-- The progress after an accepted message. -/
def AxfrProgress.next (progress : AxfrProgress) (d : AxfrDelivery N Q) (soa : SoaState) :
    AxfrProgress where
  attempt :=
    { progress.attempt with
      messages := progress.attempt.messages + 1
      bytes := progress.attempt.bytes + d.bytes
      records := progress.attempt.records + d.response.answers.length
      responseCode := some ResponseCode.noError.text }
  soa := soa
  authoritative := progress.authoritative && d.response.authoritative
  truncated := progress.truncated || d.response.truncation

structure Admits (request : AxfrRequest N Q) (progress : AxfrProgress) (d : AxfrDelivery N Q)
    (soa : SoaState) : Prop where
  identified : d.response.id = request.id ∧ d.response.opCode = .query ∧
    d.response.responseCode = .noError
  question : (d.response.queries == request.queries) = true ∨
    progress.attempt.messages ≠ 0 ∧ d.response.queries = []
  messages : progress.attempt.messages + 1 ≤ maxAxfrMessages
  bytes : progress.attempt.bytes + d.bytes ≤ maxAxfrBytes
  records : progress.attempt.records + d.response.answers.length ≤ maxAxfrRecords
  scanned : progress.soa.scan request.zone d.response.answers = some soa
  authoritative : soa.closingSeen = true →
    (progress.next d soa).authoritative = true ∧ (progress.next d soa).truncated = false

theorem Admits.bounded {request : AxfrRequest N Q} {progress : AxfrProgress}
    {d : AxfrDelivery N Q} {soa : SoaState} (h : Admits request progress d soa) :
    (progress.next d soa).attempt.Bounded :=
  ⟨h.messages, h.bytes, h.records⟩

omit [BEq N] in
theorem headerError_eq_none {request : AxfrRequest N Q} {attempt : AxfrAttempt}
    {response : DnsResponse N Q} :
    headerError request attempt response = none ↔ response.id = request.id ∧
      response.opCode = .query ∧ allowedQuestion request attempt.messages response = true := by
  unfold headerError
  by_cases h₁ : response.id = request.id
  · by_cases h₂ : response.opCode = .query
    · by_cases h₃ : allowedQuestion request attempt.messages response = true
      · simp [h₁, h₂, h₃]
      · simp [h₁, h₂, h₃]
    · simp [h₁, h₂]
  · simp [h₁]

omit [BEq N] in
theorem allowedQuestion_iff {request : AxfrRequest N Q} {messages : Nat}
    {response : DnsResponse N Q} (h : response.responseCode = .noError) :
    allowedQuestion request messages response = true ↔
      (response.queries == request.queries) = true ∨ messages ≠ 0 ∧ response.queries = [] := by
  unfold allowedQuestion
  simp [h, List.isEmpty_iff]

theorem rejectCode_eq_none {attempt : AxfrAttempt} {code : ResponseCode} :
    rejectCode attempt code = none ↔ code = .noError := by
  cases code <;> simp [rejectCode]

theorem recordCode_noError {attempt : AxfrAttempt}
    (h : attempt.responseCode = none ∨
      attempt.responseCode = some ResponseCode.noError.text) :
    recordCode attempt .noError =
      .ok { attempt with responseCode := some ResponseCode.noError.text } := by
  unfold recordCode
  rcases h with h | h
  · rw [h]
  · rw [h]
    simp only [if_true]
    rw [← h]

theorem count_eq {attempt : AxfrAttempt} {bytes records : Nat}
    (hm : attempt.messages + 1 ≤ maxAxfrMessages) (hb : attempt.bytes + bytes ≤ maxAxfrBytes)
    (hr : attempt.records + records ≤ maxAxfrRecords) :
    attempt.count bytes records =
      { attempt with
        messages := attempt.messages + 1
        bytes := attempt.bytes + bytes
        records := attempt.records + records } := by
  unfold AxfrAttempt.count
  rw [saturatingAdd_eq (by decide) hm, saturatingAdd_eq (by decide) hb,
    saturatingAdd_eq (by decide) hr]

theorem exceeded_count {attempt : AxfrAttempt} {bytes records : Nat} :
    (attempt.count bytes records).exceeded = none ↔
      attempt.messages + 1 ≤ maxAxfrMessages ∧ attempt.bytes + bytes ≤ maxAxfrBytes ∧
        attempt.records + records ≤ maxAxfrRecords := by
  rw [exceeded_eq_none]
  unfold AxfrAttempt.count AxfrAttempt.Bounded
  rw [saturatingAdd_le (by decide), saturatingAdd_le (by decide), saturatingAdd_le (by decide)]

omit [BEq Q] in
theorem readAnswers_ok_iff {request : AxfrRequest N Q} {progress progress' : AxfrProgress}
    {attempt : AxfrAttempt} {response : DnsResponse N Q} :
    readAnswers request progress attempt response = .ok progress' ↔
      ∃ soa, progress.soa.scan request.zone response.answers = some soa ∧
        (soa.closingSeen = true → (progress.authoritative && response.authoritative) = true ∧
          (progress.truncated || response.truncation) = false) ∧
        progress' = ⟨attempt, soa, progress.authoritative && response.authoritative,
          progress.truncated || response.truncation⟩ := by
  unfold readAnswers
  cases progress.soa.scan request.zone response.answers with
  | none => simp
  | some soa =>
    simp only [Option.some.injEq, exists_eq_left']
    split
    · rename_i hbad
      constructor
      · intro h
        cases h
      · rintro ⟨hclosing, _⟩
        rw [Bool.and_eq_true, Bool.or_eq_true] at hbad
        obtain ⟨hc, hbad⟩ := hbad
        obtain ⟨ha, ht⟩ := hclosing hc
        rw [ha, ht] at hbad
        simp at hbad
    · rename_i hgood
      rw [Except.ok.injEq, eq_comm]
      refine ⟨fun h => ⟨fun hc => ?_, h⟩, fun h => h.2⟩
      simpa [hc] using hgood

/-- With header, bounds and response code in order, only the answers are left to read. -/
theorem receive_noError {request : AxfrRequest N Q} {progress : AxfrProgress}
    (h : progress.Sound) (d : AxfrDelivery N Q)
    (hheader : headerError request progress.attempt d.response = none)
    (hcode : d.response.responseCode = .noError)
    (hm : progress.attempt.messages + 1 ≤ maxAxfrMessages)
    (hb : progress.attempt.bytes + d.bytes ≤ maxAxfrBytes)
    (hr : progress.attempt.records + d.response.answers.length ≤ maxAxfrRecords) :
    receive request progress d.bytes (some d.response) =
      readAnswers request progress (progress.next d {}).attempt d.response := by
  have hcount : (progress.attempt.count d.bytes d.response.answers.length).exceeded = none :=
    exceeded_count.mpr ⟨hm, hb, hr⟩
  have hcounted : (progress.attempt.count d.bytes d.response.answers.length).responseCode = none ∨
      (progress.attempt.count d.bytes d.response.answers.length).responseCode =
        some ResponseCode.noError.text := h.code
  have hreject : ∀ attempt, rejectCode attempt .noError = none :=
    fun _ => rejectCode_eq_none.mpr rfl
  simp only [receive, hheader, hcount, hcode, recordCode_noError hcounted, hreject]
  rw [count_eq hm hb hr]
  rfl

/-- What one message must satisfy, and what it adds to the progress. -/
theorem receive_ok_iff {request : AxfrRequest N Q} {progress progress' : AxfrProgress}
    (h : progress.Sound) (d : AxfrDelivery N Q) :
    receive request progress d.bytes (some d.response) = .ok progress' ↔
      ∃ soa, Admits request progress d soa ∧ progress' = progress.next d soa := by
  by_cases hcode : d.response.responseCode = .noError
  · constructor
    · intro hr
      have hkeep := hr
      simp only [receive] at hr
      split at hr
      · cases hr
      · rename_i hheader
        obtain ⟨hid, hop, hquestion⟩ := headerError_eq_none.mp hheader
        split at hr
        · cases hr
        · rename_i hcount
          obtain ⟨hm, hb, hrec⟩ := exceeded_count.mp hcount
          rw [receive_noError h d hheader hcode hm hb hrec] at hkeep
          obtain ⟨soa, hscan, hclosing, rfl⟩ := readAnswers_ok_iff.mp hkeep
          exact ⟨soa, ⟨⟨hid, hop, hcode⟩, (allowedQuestion_iff hcode).mp hquestion, hm, hb, hrec,
            hscan, hclosing⟩, rfl⟩
    · rintro ⟨soa, hadmits, rfl⟩
      have hheader : headerError request progress.attempt d.response = none :=
        headerError_eq_none.mpr ⟨hadmits.identified.1, hadmits.identified.2.1,
          (allowedQuestion_iff hcode).mpr hadmits.question⟩
      rw [receive_noError h d hheader hcode hadmits.messages hadmits.bytes hadmits.records]
      exact readAnswers_ok_iff.mpr ⟨soa, hadmits.scanned, hadmits.authoritative, rfl⟩
  · constructor
    · intro hr
      simp only [receive] at hr
      split at hr
      · cases hr
      · split at hr
        · cases hr
        · split at hr
          · cases hr
          · split at hr
            · cases hr
            · rename_i hreject
              exact absurd (rejectCode_eq_none.mp hreject) hcode
    · rintro ⟨soa, hadmits, _⟩
      exact absurd hadmits.identified.2.2 hcode

omit [BEq N] [BEq Q] in
theorem next_sound {progress : AxfrProgress} {d : AxfrDelivery N Q} {soa : SoaState}
    (h : soa.closingSeen = false) : (progress.next d soa).Sound := ⟨h, Or.inr rfl⟩

/-- Only a message that decodes is accepted. -/
theorem receive_ok_delivery {request : AxfrRequest N Q} {progress progress' : AxfrProgress}
    {bytes : Nat} {response : Option (DnsResponse N Q)}
    (hr : receive request progress bytes response = .ok progress') :
    ∃ d : AxfrDelivery N Q, .message bytes response = d.event := by
  cases response with
  | none => cases hr
  | some response => exact ⟨⟨bytes, response⟩, rfl⟩

/-! ## Whole transfers -/

/-- The messages are accepted one after the other, and the last one closes the transfer. -/
def Completes (request : AxfrRequest N Q) : AxfrProgress → List (AxfrDelivery N Q) → Prop
  | _, [] => False
  | progress, d :: rest =>
    ∃ progress', receive request progress d.bytes (some d.response) = .ok progress' ∧
      if progress'.soa.closingSeen then rest = [] else Completes request progress' rest

/-- `CompleteTransfer` for the part of a transfer that follows some progress. -/
structure CompletesFrom (request : AxfrRequest N Q) (progress : AxfrProgress)
    (ds : List (AxfrDelivery N Q)) : Prop where
  identified : ∀ d ∈ ds, d.response.id = request.id ∧ d.response.opCode = .query ∧
    d.response.responseCode = .noError
  questions : ∃ first later, ds = first :: later ∧
    ((first.response.queries == request.queries) = true ∨
      progress.attempt.messages ≠ 0 ∧ first.response.queries = []) ∧
    ∀ d ∈ later, (d.response.queries == request.queries) = true ∨ d.response.queries = []
  authoritative : (progress.authoritative = true ∧ progress.truncated = false) ∧
    ∀ d ∈ ds, d.response.authoritative = true ∧ d.response.truncation = false
  messages : progress.attempt.messages + ds.length ≤ maxAxfrMessages
  bytes : progress.attempt.bytes + (ds.map AxfrDelivery.bytes).sum ≤ maxAxfrBytes
  records : progress.attempt.records + (transferAnswers ds).length ≤ maxAxfrRecords
  delimited : ∃ soa, progress.soa.scan request.zone (transferAnswers ds) = some soa ∧
    soa.closingSeen = true
  closed : ∃ last, ds.getLast? = some last ∧ last.response.answers ≠ []

omit [BEq N] [BEq Q] in
theorem transferAnswers_ne_nil {ds : List (AxfrDelivery N Q)} {last : AxfrDelivery N Q}
    (hlast : ds.getLast? = some last) (h : last.response.answers ≠ []) :
    transferAnswers ds ≠ [] := by
  intro hnil
  have hmem : last ∈ ds := List.mem_of_getLast? hlast
  exact h (List.flatMap_eq_nil_iff.mp hnil last hmem)

section CompletesFrom

variable {request : AxfrRequest N Q} {progress : AxfrProgress} {d : AxfrDelivery N Q}
  {rest : List (AxfrDelivery N Q)} {soa : SoaState}

/-- The first message is admitted; it closes the transfer, or the rest follows. -/
theorem CompletesFrom.admits (hc : CompletesFrom request progress (d :: rest)) :
    ∃ soa, Admits request progress d soa ∧
      if soa.closingSeen then rest = []
      else CompletesFrom request (progress.next d soa) rest := by
  obtain ⟨hid, hids⟩ := List.forall_mem_cons.mp hc.identified
  obtain ⟨first, later, heq, hfirst, hlater⟩ := hc.questions
  obtain ⟨rfl, rfl⟩ := List.cons.inj heq
  obtain ⟨⟨hpa, hpt⟩, hauth⟩ := hc.authoritative
  obtain ⟨⟨hda, hdt⟩, hauths⟩ := List.forall_mem_cons.mp hauth
  have hmessages := hc.messages
  have hbytes := hc.bytes
  have hrecords := hc.records
  simp only [List.length_cons, List.map_cons, List.sum_cons, transferAnswers, List.flatMap_cons,
    List.length_append] at hmessages hbytes hrecords
  obtain ⟨soa', hscan, hclosing⟩ := hc.delimited
  rw [transferAnswers, List.flatMap_cons, scan_append, Option.bind_eq_some_iff] at hscan
  obtain ⟨soa, hsoa, hscan⟩ := hscan
  refine ⟨soa, ⟨hid, hfirst, by omega, by omega, by omega, hsoa, fun _ => ?_⟩, ?_⟩
  · exact ⟨by simp [AxfrProgress.next, hpa, hda], by simp [AxfrProgress.next, hpt, hdt]⟩
  · obtain ⟨last, hlast, hanswers⟩ := hc.closed
    split
    · rename_i hclosed
      cases rest with
      | nil => rfl
      | cons e rest =>
        rw [List.getLast?_cons_cons] at hlast
        exact absurd (scan_closed hclosed hscan) (transferAnswers_ne_nil hlast hanswers)
    · rename_i hopen
      have hne : rest ≠ [] := by
        rintro rfl
        cases hscan
        exact hopen hclosing
      obtain ⟨e, rest, rfl⟩ := List.exists_cons_of_ne_nil hne
      rw [List.getLast?_cons_cons] at hlast
      refine ⟨hids, ⟨e, rest, rfl, ?_, ?_⟩, ⟨⟨?_, ?_⟩, hauths⟩, ?_, ?_, ?_,
        ⟨soa', hscan, hclosing⟩, ⟨last, hlast, hanswers⟩⟩
      · exact (hlater e List.mem_cons_self).imp_right
          (fun hq => ⟨by simp [AxfrProgress.next], hq⟩)
      · exact fun d hd => hlater d (List.mem_cons_of_mem e hd)
      · simp [AxfrProgress.next, hpa, hda]
      · simp [AxfrProgress.next, hpt, hdt]
      · simp only [AxfrProgress.next]; omega
      · simp only [AxfrProgress.next]; omega
      · simp only [AxfrProgress.next, transferAnswers]; omega

/-- A message that closes the transfer completes it alone. -/
theorem Admits.completes (h : progress.Sound) (hadmits : Admits request progress d soa)
    (hclosed : soa.closingSeen = true) : CompletesFrom request progress [d] := by
  obtain ⟨hauth, htrunc⟩ := hadmits.authoritative hclosed
  simp only [AxfrProgress.next, Bool.and_eq_true, Bool.or_eq_false_iff] at hauth htrunc
  have hscan := hadmits.scanned
  have hrecords := hadmits.records
  refine ⟨by simpa using hadmits.identified, ⟨d, [], rfl, hadmits.question, by simp⟩,
    ⟨⟨hauth.1, htrunc.1⟩, by simpa using ⟨hauth.2, htrunc.2⟩⟩, by simpa using hadmits.messages,
    by simpa using hadmits.bytes, by simpa [transferAnswers] using hrecords,
    ⟨soa, by simpa [transferAnswers] using hscan, hclosed⟩, ⟨d, rfl, ?_⟩⟩
  intro hnil
  rw [hnil] at hscan
  cases hscan
  rw [h.notClosed] at hclosed
  cases hclosed

/-- An admitted message before the rest of a transfer. -/
theorem CompletesFrom.cons (hadmits : Admits request progress d soa)
    (hrest : CompletesFrom request (progress.next d soa) rest) :
    CompletesFrom request progress (d :: rest) := by
  obtain ⟨e, later, rfl, hfirst, hlater⟩ := hrest.questions
  obtain ⟨⟨hauth, htrunc⟩, hauths⟩ := hrest.authoritative
  simp only [AxfrProgress.next, Bool.and_eq_true, Bool.or_eq_false_iff] at hauth htrunc
  have hmessages := hrest.messages
  have hbytes := hrest.bytes
  have hrecords := hrest.records
  simp only [AxfrProgress.next] at hmessages hbytes hrecords
  obtain ⟨soa', hscan, hclosing⟩ := hrest.delimited
  obtain ⟨last, hlast, hanswers⟩ := hrest.closed
  refine ⟨?_, ⟨d, e :: later, rfl, hadmits.question, ?_⟩, ⟨⟨hauth.1, htrunc.1⟩, ?_⟩, ?_, ?_, ?_,
    ⟨soa', ?_, hclosing⟩, ⟨last, by rw [List.getLast?_cons_cons]; exact hlast, hanswers⟩⟩
  · exact List.forall_mem_cons.mpr ⟨hadmits.identified, hrest.identified⟩
  · exact List.forall_mem_cons.mpr ⟨hfirst.imp_right And.right, hlater⟩
  · exact List.forall_mem_cons.mpr ⟨⟨hauth.2, htrunc.2⟩, hauths⟩
  · rw [List.length_cons]; omega
  · rw [List.map_cons, List.sum_cons]; omega
  · rw [transferAnswers, List.flatMap_cons, List.length_append]
    rw [transferAnswers] at hrecords
    omega
  · rw [transferAnswers, List.flatMap_cons, scan_append, hadmits.scanned]
    exact hscan

theorem completesFrom_cons (h : progress.Sound) :
    CompletesFrom request progress (d :: rest) ↔
      ∃ soa, Admits request progress d soa ∧
        if soa.closingSeen then rest = []
        else CompletesFrom request (progress.next d soa) rest := by
  constructor
  · exact CompletesFrom.admits
  · rintro ⟨soa, hadmits, hrest⟩
    split at hrest
    · rename_i hclosed
      subst hrest
      exact hadmits.completes h hclosed
    · exact hrest.cons hadmits

end CompletesFrom

theorem completes_iff {request : AxfrRequest N Q} {progress : AxfrProgress}
    (h : progress.Sound) (ds : List (AxfrDelivery N Q)) :
    Completes request progress ds ↔ CompletesFrom request progress ds := by
  induction ds generalizing progress with
  | nil =>
    constructor
    · intro hf
      exact hf.elim
    · intro hf
      obtain ⟨first, later, hnil, _⟩ := hf.questions
      cases hnil
  | cons d rest ih =>
    rw [completesFrom_cons h, Completes]
    constructor
    · rintro ⟨progress', hr, hrest⟩
      obtain ⟨soa, hadmits, rfl⟩ := (receive_ok_iff h d).mp hr
      refine ⟨soa, hadmits, ?_⟩
      cases hc : soa.closingSeen with
      | true => simpa [AxfrProgress.next, hc] using hrest
      | false =>
        simp only [AxfrProgress.next, hc, Bool.false_eq_true, if_false] at hrest
        simpa using (ih (next_sound hc)).mp hrest
    · rintro ⟨soa, hadmits, hrest⟩
      refine ⟨progress.next d soa, (receive_ok_iff h d).mpr ⟨soa, hadmits, rfl⟩, ?_⟩
      cases hc : soa.closingSeen with
      | true => simpa [AxfrProgress.next, hc] using hrest
      | false =>
        simp only [hc, Bool.false_eq_true, if_false] at hrest
        simpa [AxfrProgress.next, hc] using (ih (next_sound hc)).mpr hrest

theorem completesFrom_new_iff (session : AxfrSession N Q) (ds : List (AxfrDelivery N Q)) :
    CompletesFrom session.request { attempt := session.newAttempt } ds ↔
      CompleteTransfer session.request ds := by
  have hscan := scan_closes_iff session.request.zone (transferAnswers ds)
  constructor
  · intro h
    obtain ⟨first, later, hds, hfirst, hlater⟩ := h.questions
    refine ⟨h.identified, ⟨first, later, hds, ?_, hlater⟩, h.authoritative.2, ?_, ?_, ?_,
      hscan.mp h.delimited, h.closed⟩
    · exact hfirst.resolve_right (fun hne => hne.1 rfl)
    · simpa [AxfrSession.newAttempt] using h.messages
    · simpa [AxfrSession.newAttempt] using h.bytes
    · simpa [AxfrSession.newAttempt] using h.records
  · intro h
    obtain ⟨first, later, hds, hfirst, hlater⟩ := h.questions
    refine ⟨h.identified, ⟨first, later, hds, Or.inl hfirst, hlater⟩, ⟨⟨rfl, rfl⟩,
      h.authoritative⟩, ?_, ?_, ?_, hscan.mpr h.delimited, h.closed⟩
    · simpa [AxfrSession.newAttempt] using h.messages
    · simpa [AxfrSession.newAttempt] using h.bytes
    · simpa [AxfrSession.newAttempt] using h.records

/-! ## The loop -/

omit [BEq N] [BEq Q] in
theorem drain_allowed_iff (attempt : AxfrAttempt) (tail : List (AxfrEvent N Q)) :
    (drain attempt tail).outcome = .allowed ↔ silent tail := by
  unfold drain silent
  cases tail with
  | nil => simp
  | cons event tail => cases event <;> simp [AxfrAttempt.fail, AxfrAttempt.incomplete]

/-- The attempt ends without allowing anything, its counts within the limits. -/
structure AxfrAttempt.Ended (attempt : AxfrAttempt) : Prop where
  denied : attempt.outcome ≠ .allowed
  bounded : attempt.Bounded

theorem ended_incomplete {attempt : AxfrAttempt} (h : attempt.Bounded) (error : String) :
    (attempt.incomplete error).Ended :=
  ⟨by simp [AxfrAttempt.incomplete, AxfrAttempt.fail], h⟩

theorem recordCode_ok {attempt attempt' : AxfrAttempt} (h : attempt.Bounded) {code : ResponseCode}
    (hr : recordCode attempt code = .ok attempt') : attempt'.Bounded := by
  unfold recordCode at hr
  split at hr
  · cases hr
    exact h
  · split at hr
    · cases hr
      exact h
    · cases hr

theorem recordCode_error {attempt attempt' : AxfrAttempt} (h : attempt.Bounded)
    {code : ResponseCode} (hr : recordCode attempt code = .error attempt') : attempt'.Ended := by
  unfold recordCode at hr
  split at hr
  · cases hr
  · split at hr
    · cases hr
    · cases hr
      exact ended_incomplete h _

theorem rejectCode_some {attempt attempt' : AxfrAttempt} (h : attempt.Bounded)
    {code : ResponseCode} (hr : rejectCode attempt code = some attempt') : attempt'.Ended := by
  unfold rejectCode at hr
  split at hr
  · cases hr
  · cases hr
    exact ⟨by simp, h⟩
  · cases hr
    exact ⟨by simp, h⟩
  · cases hr
    exact ended_incomplete h _

omit [BEq Q] in
theorem readAnswers_error {request : AxfrRequest N Q} {progress : AxfrProgress}
    {attempt attempt' : AxfrAttempt} {response : DnsResponse N Q} (h : attempt.Bounded)
    (hr : readAnswers request progress attempt response = .error attempt') : attempt'.Ended := by
  unfold readAnswers at hr
  simp only at hr
  split at hr
  · cases hr
    exact ended_incomplete h _
  · split at hr
    · cases hr
      exact ended_incomplete h _
    · cases hr

/-- A message that ends the attempt never allows the transfer. -/
theorem receive_error {request : AxfrRequest N Q} {progress : AxfrProgress} {bytes : Nat}
    {response : Option (DnsResponse N Q)} {attempt : AxfrAttempt}
    (h : progress.attempt.Bounded)
    (hr : receive request progress bytes response = .error attempt) : attempt.Ended := by
  cases response with
  | none =>
    cases hr
    exact ended_incomplete h _
  | some response =>
    simp only [receive] at hr
    split at hr
    · cases hr
      exact ended_incomplete h _
    · split at hr
      · cases hr
        exact ⟨by simp [AxfrAttempt.fail], h⟩
      · rename_i hcount
        have hcounted := exceeded_eq_none.mp hcount
        split at hr
        · rename_i hcode
          cases hr
          exact recordCode_error hcounted hcode
        · rename_i hcode
          have hrecorded := recordCode_ok hcounted hcode
          split at hr
          · rename_i hreject
            cases hr
            exact rejectCode_some hrecorded hreject
          · exact readAnswers_error hrecorded hr

omit [BEq N] [BEq Q] in
theorem event_injective {d e : AxfrDelivery N Q} (h : d.event = e.event) : d = e := by
  obtain ⟨bytes, response⟩ := d
  obtain ⟨bytes', response'⟩ := e
  cases h
  rfl

/-- A decomposition into messages and a silent tail starts with a decoded message. -/
theorem completes_cons_iff {request : AxfrRequest N Q} {progress : AxfrProgress}
    (event : AxfrEvent N Q) (rest : List (AxfrEvent N Q)) :
    (∃ ds tail, event :: rest = ds.map AxfrDelivery.event ++ tail ∧ silent tail ∧
        Completes request progress ds) ↔
      ∃ d, event = d.event ∧ ∃ ds tail, rest = ds.map AxfrDelivery.event ++ tail ∧ silent tail ∧
        Completes request progress (d :: ds) := by
  constructor
  · rintro ⟨ds, tail, heq, hsilent, hc⟩
    cases ds with
    | nil => exact hc.elim
    | cons d ds =>
      obtain ⟨hd, hrest⟩ := List.cons.inj heq
      exact ⟨d, hd, ds, tail, hrest, hsilent, hc⟩
  · rintro ⟨d, rfl, ds, tail, rfl, hsilent, hc⟩
    exact ⟨d :: ds, tail, rfl, hsilent, hc⟩

/-- An event that is no decoded message completes nothing. -/
theorem not_completes {request : AxfrRequest N Q} {progress : AxfrProgress}
    {event : AxfrEvent N Q} (rest : List (AxfrEvent N Q))
    (h : ∀ d : AxfrDelivery N Q, event = d.event →
      ∀ progress', receive request progress d.bytes (some d.response) ≠ .ok progress') :
    ¬∃ ds tail, event :: rest = ds.map AxfrDelivery.event ++ tail ∧ silent tail ∧
      Completes request progress ds := by
  rw [completes_cons_iff]
  rintro ⟨d, heq, -, -, -, -, progress', hok, -⟩
  exact h d heq progress' hok

/-- A message that is received leaves it to the rest to complete the transfer. -/
theorem completes_received_iff {request : AxfrRequest N Q} {progress progress' : AxfrProgress}
    {d : AxfrDelivery N Q} (rest : List (AxfrEvent N Q))
    (hr : receive request progress d.bytes (some d.response) = .ok progress') :
    (∃ ds tail, d.event :: rest = ds.map AxfrDelivery.event ++ tail ∧ silent tail ∧
        Completes request progress ds) ↔
      ∃ ds tail, rest = ds.map AxfrDelivery.event ++ tail ∧ silent tail ∧
        if progress'.soa.closingSeen then ds = [] else Completes request progress' ds := by
  rw [completes_cons_iff]
  constructor
  · rintro ⟨d', heq, ds, tail, hrest, hsilent, progress'', hok, hds⟩
    obtain rfl := event_injective heq
    cases hr.symm.trans hok
    exact ⟨ds, tail, hrest, hsilent, hds⟩
  · rintro ⟨ds, tail, hrest, hsilent, hds⟩
    exact ⟨d, rfl, ds, tail, hrest, hsilent, progress', hr, hds⟩

/-- From any sound progress the loop allows the transfer exactly when the messages at the head of
the events complete it and silence follows. -/
theorem axfrLoop_allowed_iff {request : AxfrRequest N Q} (deadlineFirst : Bool)
    {progress : AxfrProgress} (h : progress.Sound) (hb : progress.attempt.Bounded)
    (events : List (AxfrEvent N Q)) :
    (axfrLoop request deadlineFirst progress events).outcome = .allowed ↔
      ∃ ds tail, events = ds.map AxfrDelivery.event ++ tail ∧ silent tail ∧
        Completes request progress ds := by
  induction events generalizing progress with
  | nil =>
    refine iff_of_false nofun ?_
    rintro ⟨_ | ⟨d, ds⟩, tail, heq, -, hc⟩
    · exact hc
    · cases heq
  | cons event rest ih =>
    cases event with
    | cancelled => exact iff_of_false nofun (not_completes rest nofun)
    | timedOut => exact iff_of_false nofun (not_completes rest nofun)
    | framingError => exact iff_of_false nofun (not_completes rest nofun)
    | endOfStream =>
      refine iff_of_false (fun hout => ?_) (not_completes rest nofun)
      simp [axfrLoop, AxfrProgress.ended, h.notClosed, AxfrAttempt.incomplete,
        AxfrAttempt.fail] at hout
    | message bytes response =>
      simp only [axfrLoop, h.notClosed, Bool.false_eq_true, if_false]
      cases hr : receive request progress bytes response with
      | error attempt =>
        refine iff_of_false (receive_error hb hr).denied (not_completes rest ?_)
        rintro d heq progress' hok
        cases heq
        cases hr.symm.trans hok
      | ok progress' =>
        obtain ⟨d, hd⟩ := receive_ok_delivery hr
        cases hd
        rw [show AxfrEvent.message d.bytes (some d.response) = d.event from rfl,
          completes_received_iff rest hr]
        simp only
        cases hclosed : progress'.soa.closingSeen with
        | true =>
          simp only [if_true, drain_allowed_iff]
          constructor
          · intro hsilent
            exact ⟨[], rest, rfl, hsilent, rfl⟩
          · rintro ⟨_, tail, hrest, hsilent, rfl⟩
            rw [hrest]
            exact hsilent
        | false =>
          obtain ⟨soa, hadmits, rfl⟩ := (receive_ok_iff h d).mp hr
          have hsound : (progress.next d soa).Sound := next_sound hclosed
          simp only [Bool.false_eq_true, if_false]
          exact ih hsound hadmits.bounded

omit [BEq N] [BEq Q] in
theorem drain_bounded {attempt : AxfrAttempt} (h : attempt.Bounded)
    (tail : List (AxfrEvent N Q)) : (drain attempt tail).Bounded := by
  unfold drain
  split <;> exact h

theorem axfrLoop_bounded {request : AxfrRequest N Q} (deadlineFirst : Bool)
    {progress : AxfrProgress} (h : progress.Sound) (hb : progress.attempt.Bounded)
    (events : List (AxfrEvent N Q)) :
    (axfrLoop request deadlineFirst progress events).Bounded := by
  induction events generalizing progress with
  | nil => exact hb
  | cons event rest ih =>
    cases event with
    | cancelled => exact hb
    | timedOut => exact hb
    | framingError => exact hb
    | endOfStream =>
      simp only [axfrLoop, AxfrProgress.ended]
      split <;> exact hb
    | message bytes response =>
      simp only [axfrLoop, h.notClosed, Bool.false_eq_true, if_false]
      cases hr : receive request progress bytes response with
      | error attempt => exact (receive_error hb hr).bounded
      | ok progress' =>
        obtain ⟨d, hd⟩ := receive_ok_delivery hr
        cases hd
        obtain ⟨soa, hadmits, rfl⟩ := (receive_ok_iff h d).mp hr
        simp only
        split
        · exact drain_bounded hadmits.bounded rest
        · rename_i hclosed
          exact ih (next_sound (Bool.eq_false_iff.mpr hclosed)) hadmits.bounded

/-- The endpoint allows transfers exactly when the request goes out, a complete authoritative
transfer comes back, and silence follows it. The reported counts always respect the limits. -/
theorem checkAxfrEndpoint_allowed_iff (session : AxfrSession N Q) :
    ((checkAxfrEndpoint session).outcome = .allowed ↔
      session.connected = .ready (.ok ()) ∧ session.encoded = true ∧ session.sent = true ∧
        ∃ ds tail, session.events = ds.map AxfrDelivery.event ++ tail ∧ silent tail ∧
          CompleteTransfer session.request ds) ∧
      (checkAxfrEndpoint session).Bounded := by
  have hzero : session.newAttempt.Bounded :=
    ⟨Nat.zero_le _, Nat.zero_le _, Nat.zero_le _⟩
  have hsound : AxfrProgress.Sound { attempt := session.newAttempt } := ⟨rfl, Or.inl rfl⟩
  unfold checkAxfrEndpoint
  simp only
  cases hconnected : session.connected with
  | cancelled => exact ⟨by simp [AxfrAttempt.fail], hzero⟩
  | timedOut => exact ⟨by simp [AxfrAttempt.fail], hzero⟩
  | ready result =>
    cases result with
    | error _ => exact ⟨by simp [AxfrSession.newAttempt], hzero⟩
    | ok _ =>
      cases hencoded : session.encoded with
      | false => exact ⟨by simp [AxfrAttempt.incomplete, AxfrAttempt.fail], hzero⟩
      | true =>
        cases hsent : session.sent with
        | false => exact ⟨by simp [AxfrSession.newAttempt], hzero⟩
        | true =>
          simp only [Bool.true_eq_false, if_false, true_and]
          refine ⟨?_, axfrLoop_bounded _ hsound hzero _⟩
          rw [axfrLoop_allowed_iff _ hsound hzero]
          refine exists_congr fun ds => exists_congr fun tail => and_congr_right fun _ =>
            and_congr_right fun _ => ?_
          rw [completes_iff hsound]
          exact completesFrom_new_iff session ds

end Transfer

end Surface
