import Surface.Gather
import Surface.Trace
import Surface.Intelligence.Clients

/-!
# Surface.Intelligence.Fetch

Reading the body of an answer, up to a limit.

* `readChunks_eq`: what is read is decided by the bytes in front of the first fault and by that
  fault, not by the pieces in which the bytes arrive.
* `readChunk_bounded`: the body that the loop holds never exceeds the limit.
* `getBounded_pieces`: exactly when a body is read, and what the loop holds until then.
-/

namespace Surface

/-- How sending a request or reading its answer fails. -/
inductive ReadFault where
  | timeout
  | other
deriving DecidableEq

def ReadFault.fetchError : ReadFault → FetchError
  | timeout => .timeout
  | other => .request

abbrev Chunk := Except ReadFault (List UInt8)

structure FetchAnswer where
  status : Nat
  chunks : List Chunk

/-- What a request comes to under the token, the deadline and the request timeout. -/
inductive Exchange where
  | cancelled
  | deadline
  | timeout
  | refused (fault : ReadFault)
  | answered (answer : FetchAnswer)

def isSuccess (status : Nat) : Bool := decide (200 ≤ status ∧ status < 300)

/-- The loop over the pieces: it holds the body read so far, or has returned. -/
inductive BodyRead where
  | reading (body : List UInt8)
  | returned (error : FetchError)

def BodyRead.result : BodyRead → Except FetchError (List UInt8)
  | reading body => .ok body
  | returned error => .error error

def readChunk (maximumBytes : Nat) : Chunk → BodyRead → BodyRead
  | .ok chunk, .reading body =>
    if maximumBytes < body.length + chunk.length then .returned .tooLarge
    else .reading (body ++ chunk)
  | .error fault, .reading _ => .returned fault.fetchError
  | _, .returned error => .returned error

def readChunks (maximumBytes : Nat) (body : List UInt8) (chunks : List Chunk) :
    Except FetchError (List UInt8) :=
  (chunks.foldl (fun read chunk => readChunk maximumBytes chunk read) (.reading body)).result

def getBounded (maximumBytes : Nat) : Exchange → Except FetchError (List UInt8)
  | .cancelled => .error .cancelled
  | .deadline => .error .deadline
  | .timeout => .error .timeout
  | .refused fault => .error fault.fetchError
  | .answered answer =>
    if isSuccess answer.status = false then .error (.http answer.status)
    else readChunks maximumBytes [] answer.chunks

/-- What the network comes to for one request: resolving its host, building a client, and the
exchange itself. -/
structure Reach where
  resolution : Resolution
  builds : Bool
  exchange : Exchange

def Reach.call (reach : Reach) (host : Option String) : ClientCall :=
  ⟨host, reach.resolution, reach.builds⟩

/-- A fetch that fails ends the run or is one more reason. -/
def FetchError.verdict {α : Type} (reason : FetchError → String) :
    FetchError → Verdict α String LookupStop
  | .cancelled => .stop .cancelled
  | .deadline => .stop .deadline
  | error => .fail (reason error)

/-! ## Pieces -/

/-- The bytes that arrive in front of the first fault. -/
def received : List Chunk → List UInt8
  | [] => []
  | .error _ :: _ => []
  | .ok chunk :: rest => chunk ++ received rest

def firstFault : List Chunk → Option ReadFault
  | [] => none
  | .error fault :: _ => some fault
  | .ok _ :: rest => firstFault rest

theorem foldl_returned (maximumBytes : Nat) (error : FetchError) (chunks : List Chunk) :
    chunks.foldl (fun read chunk => readChunk maximumBytes chunk read) (.returned error) =
      .returned error := by
  induction chunks with
  | nil => rfl
  | cons chunk chunks ih => cases chunk <;> exact ih

theorem readChunks_eq {maximumBytes : Nat} (chunks : List Chunk) {body : List UInt8}
    (h : body.length ≤ maximumBytes) : readChunks maximumBytes body chunks =
      if maximumBytes < (body ++ received chunks).length then .error .tooLarge
      else (firstFault chunks).elim (.ok (body ++ received chunks)) fun fault =>
        .error fault.fetchError := by
  induction chunks generalizing body with
  | nil =>
    rw [received, List.append_nil, if_neg (Nat.not_lt.mpr h)]
    rfl
  | cons chunk chunks ih =>
    rw [readChunks, List.foldl_cons]
    cases chunk with
    | error fault =>
      rw [readChunk, foldl_returned, received, List.append_nil, if_neg (Nat.not_lt.mpr h)]
      rfl
    | ok chunk =>
      rw [readChunk, received, firstFault, ← List.append_assoc]
      split
      · rename_i hlarge
        have hmore : maximumBytes < (body ++ chunk ++ received chunks).length := by
          simp only [List.length_append]
          omega
        rw [foldl_returned, if_pos hmore]
        rfl
      · rename_i hroom
        exact ih (by rw [List.length_append]; exact Nat.not_lt.mp hroom)

/-- The body that is held has room in the limit. -/
def BodyRead.Bounded (maximumBytes : Nat) (read : BodyRead) : Prop :=
  ∀ body, read = .reading body → body.length ≤ maximumBytes

theorem readChunk_bounded (maximumBytes : Nat) (chunk : Chunk) (read : BodyRead)
    (h : read.Bounded maximumBytes) : (readChunk maximumBytes chunk read).Bounded maximumBytes := by
  cases read with
  | returned error => cases chunk <;> exact nofun
  | reading body =>
    cases chunk with
    | error fault => exact nofun
    | ok chunk =>
      rw [readChunk]
      split
      · exact nofun
      · rename_i hroom
        rintro _ ⟨⟩
        rw [List.length_append]
        exact Nat.not_lt.mp hroom

/-- A body is all that arrived with a success, without a fault and within the limit. Answers that
differ in the pieces alone are read alike, and between any two pieces the loop holds no more than
the limit. -/
theorem getBounded_pieces (maximumBytes : Nat) :
    (∀ exchange body, getBounded maximumBytes exchange = .ok body ↔
      ∃ answer, exchange = .answered answer ∧ isSuccess answer.status = true ∧
        firstFault answer.chunks = none ∧ received answer.chunks = body ∧
        body.length ≤ maximumBytes) ∧
    (∀ answer answer' : FetchAnswer, answer.status = answer'.status →
      received answer.chunks = received answer'.chunks →
      firstFault answer.chunks = firstFault answer'.chunks →
      getBounded maximumBytes (.answered answer) = getBounded maximumBytes (.answered answer')) ∧
    ∀ answer : FetchAnswer,
      ∀ read ∈ trace (readChunk maximumBytes) answer.chunks (.reading []),
        read.Bounded maximumBytes := by
  have hread : ∀ answer : FetchAnswer, readChunks maximumBytes [] answer.chunks =
      if maximumBytes < (received answer.chunks).length then .error .tooLarge
      else (firstFault answer.chunks).elim (.ok (received answer.chunks)) fun fault =>
        .error fault.fetchError := fun answer =>
    readChunks_eq answer.chunks (Nat.zero_le _)
  refine ⟨fun exchange body => ⟨fun h => ?_, ?_⟩, fun answer answer' hstatus hbytes hfault => ?_,
    fun answer => trace_keeps (readChunk_bounded maximumBytes) ?_⟩
  · cases exchange with
    | answered answer =>
      rw [getBounded, hread] at h
      split at h
      · cases h
      · rename_i hsuccess
        split at h
        · cases h
        · rename_i hroom
          cases hfault : firstFault answer.chunks with
          | some fault => rw [hfault] at h; cases h
          | none =>
            rw [hfault] at h
            cases h
            exact ⟨answer, rfl, Bool.not_eq_false _ ▸ hsuccess, hfault, rfl, Nat.not_lt.mp hroom⟩
    | _ => cases h
  · rintro ⟨answer, rfl, hsuccess, hfault, rfl, hroom⟩
    rw [getBounded, hread, hsuccess, hfault, if_neg Bool.noConfusion, if_neg (Nat.not_lt.mpr hroom)]
    rfl
  · rw [getBounded, getBounded, hread, hread, hstatus, hbytes, hfault]
  · rintro _ ⟨⟩
    exact Nat.zero_le _

end Surface
