/-
  File: Daftar/Credentials/DeliveryOutbox.lean
  Subject: The outbox of credential deliveries, and the drains that work through it.

  * A drain claims a batch of due rows under a lease, sends one message after another and finalizes
    each row after its message. The claim and each finalization are transactions of their own.
  * Finalizing updates a row by its id: it looks neither at the lease nor at the status.
  * `claims` is a history variable, how often a row was claimed. No statement decides by it.
-/

import Daftar.Identifiers
import Daftar.Library.Fallible
import Daftar.Library.Runs
import Daftar.Library.Tables

namespace Daftar.Credentials

open Fallible
open Tables

/-! ## 1. Rows -/

inductive DeliveryStatus
  | pending | processing | sent | failed | dead | reissueRequired
  deriving DecidableEq

/-- `reissue_required` is what an upgrade left of undelivered rows; no worker claims it. -/
def DeliveryStatus.IsTerminal : DeliveryStatus → Prop
  | sent => True
  | dead => True
  | reissueRequired => True
  | _ => False

instance (status : DeliveryStatus) : Decidable status.IsTerminal := by
  cases status <;> unfold DeliveryStatus.IsTerminal <;> infer_instance

inductive DeliveryErrorCode
  | payloadDecryptFailed | smtpConnectionFailed | smtpAuthFailed | smtpTimeout
  | providerUnavailable | deliveryFailed
  deriving DecidableEq

/-- The credential a message carries: the kind of a row says which. -/
inductive Parent
  | invitation (id : Uuid)
  | passwordReset (tokenId : Uuid)
  deriving DecidableEq

/-- A row of `credential_deliveries`. Times are in milliseconds. -/
structure Delivery where
  id : Uuid
  parent : Parent
  email : String
  secretCiphertext : Option String
  secretNonce : Option String
  keyVersion : Option String
  status : DeliveryStatus
  attempts : ℕ
  nextAttemptAt : ℤ
  lastError : Option DeliveryErrorCode
  lockedBy : Option String
  leaseUntil : Option ℤ
  claims : ℕ

/-- The CHECK `credential_deliveries_payload_required`. -/
def Delivery.PayloadRequired (d : Delivery) : Prop :=
  d.status.IsTerminal ∨
    d.secretCiphertext.isSome ∧ d.secretNonce.isSome ∧ d.keyVersion.isSome

instance (d : Delivery) : Decidable d.PayloadRequired := by
  unfold Delivery.PayloadRequired
  infer_instance

/-- The delivery state as the invitation or the reset token mirrors it. -/
structure Mirror where
  deliveryStatus : DeliveryStatus
  deliveryAttempts : ℕ
  lastDeliveryError : Option DeliveryErrorCode

structure DeliveryDb where
  deliveries : Table Delivery.id
  mirrors : Parent → Mirror

inductive DeliveryRefusal
  | checkViolation
  deriving DecidableEq

/-! ## 2. Claiming -/

def DELIVERY_MAX_ATTEMPTS : ℕ := 5

def DELIVERY_LEASE_MS : ℤ := 2 * 60 * 1000

/-- What `enqueueTx` inserts: a pending row with its payload. -/
structure Delivery.IsNew (d : Delivery) : Prop where
  status : d.status = .pending
  payload : d.secretCiphertext.isSome ∧ d.secretNonce.isSome ∧ d.keyVersion.isSome
  attempts : d.attempts = 0
  unlocked : d.lockedBy = none ∧ d.leaseUntil = none
  claims : d.claims = 0

/-- Due for a first or another attempt, or left by a worker whose lease is over. -/
def Delivery.Due (now : ℤ) (d : Delivery) : Prop :=
  (d.status = .pending ∨ d.status = .failed) ∧ d.nextAttemptAt ≤ now ∨
    d.status = .processing ∧ ∃ lease ∈ d.leaseUntil, lease < now

instance (now : ℤ) (d : Delivery) : Decidable (d.Due now) := by
  unfold Delivery.Due
  infer_instance

def Delivery.claim (worker : String) (now : ℤ) (d : Delivery) : Delivery :=
  { d with status := .processing, lockedBy := some worker,
           leaseUntil := some (now + DELIVERY_LEASE_MS), claims := d.claims + 1 }

/-- What a claim returns of a row. -/
structure Job where
  id : Uuid
  parent : Parent
  email : String
  secretCiphertext : Option String
  secretNonce : Option String
  keyVersion : Option String
  attempts : ℕ
  claim : ℕ
  deriving DecidableEq

def Delivery.job (d : Delivery) : Job :=
  ⟨d.id, d.parent, d.email, d.secretCiphertext, d.secretNonce, d.keyVersion, d.attempts, d.claims⟩

theorem Delivery.id_claim (worker : String) (now : ℤ) (d : Delivery) : (d.claim worker now).id = d.id :=
  rfl

def DeliveryDb.claim (db : DeliveryDb) (worker : String) (now : ℤ) (ids : List Uuid) : DeliveryDb :=
  { db with deliveries := db.deliveries.modifyAll ids _ (Delivery.id_claim worker now) }

/-! ## 3. Sending and finalizing -/

/-- A column JavaScript takes for false: NULL or empty. -/
def isMissing (column : Option String) : Bool := column.getD "" = ""

/-- What the message of a job ends with; `sent` is what decryption and the adapter end with, where
    they are called. -/
def Job.outcome (job : Job) (sent : Option DeliveryErrorCode) : Option DeliveryErrorCode :=
  if isMissing job.secretCiphertext || isMissing job.secretNonce || isMissing job.keyVersion then
    some .deliveryFailed
  else sent

def finalStatus (attempts : ℕ) : Option DeliveryErrorCode → DeliveryStatus
  | none => .sent
  | some _ => if DELIVERY_MAX_ATTEMPTS ≤ attempts then .dead else .failed

/-- The status a job is finalized with. -/
def Job.finalStatus (job : Job) (err : Option DeliveryErrorCode) : DeliveryStatus :=
  Credentials.finalStatus (job.attempts + 1) err

def Delivery.finalize (job : Job) (err : Option DeliveryErrorCode) (now : ℤ) (d : Delivery) : Delivery :=
  { d with
    status := job.finalStatus err
    attempts := job.attempts + 1
    lastError := err
    nextAttemptAt :=
      if job.finalStatus err = .failed then now + 60000 * 2 ^ (job.attempts + 1) else d.nextAttemptAt
    leaseUntil := none
    lockedBy := none
    secretCiphertext := if (job.finalStatus err).IsTerminal then none else d.secretCiphertext
    secretNonce := if (job.finalStatus err).IsTerminal then none else d.secretNonce }

theorem Delivery.id_finalize (job : Job) (err : Option DeliveryErrorCode) (now : ℤ) (d : Delivery) :
    (d.finalize job err now).id = d.id := rfl

/-- The finalizing transaction: the row by its id, and its parent. -/
def DeliveryDb.finalize (db : DeliveryDb) (job : Job) (err : Option DeliveryErrorCode) (now : ℤ) :
    Except DeliveryRefusal DeliveryDb := do
  refuseIf (¬ ∀ d ∈ db.deliveries.find? job.id, (d.finalize job err now).PayloadRequired) .checkViolation
  pure
    { deliveries := db.deliveries.modify job.id _ (Delivery.id_finalize job err now)
      mirrors := Function.update db.mirrors job.parent
        ⟨job.finalStatus err, job.attempts + 1, err⟩ }

/-! ## 4. Drains -/

/-- What a drain returns. -/
structure DrainResult where
  sent : ℕ
  failed : ℕ
  dead : ℕ
  deriving DecidableEq

def DrainResult.count (r : DrainResult) : DeliveryStatus → DrainResult
  | .sent => { r with sent := r.sent + 1 }
  | .dead => { r with dead := r.dead + 1 }
  | _ => { r with failed := r.failed + 1 }

/-- A drain before its next message, or before the finalization of one. -/
inductive Drain
  | sending (jobs : List Job) (result : DrainResult)
  | finalizing (job : Job) (err : Option DeliveryErrorCode) (jobs : List Job) (result : DrainResult)

/-- The jobs a drain has not finalized. -/
def Drain.jobs : Drain → List Job
  | sending jobs _ => jobs
  | finalizing job _ jobs _ => job :: jobs

structure Outbox where
  db : DeliveryDb
  drains : ℕ → Option Drain

def Outbox.idle (db : DeliveryDb) : Outbox := ⟨db, fun _ => none⟩

inductive Event
  | enqueue
  | claim (i : ℕ)
  | send (i : ℕ)
  | finalize (i : ℕ)
  | stop (i : ℕ)

/-- Any clock may be read, any due rows may come first (those another transaction has locked are
    skipped), any message may fail, and a worker may stop at any point. -/
inductive Step : Outbox → Event → Outbox → Prop
  | enqueue {s : Outbox} {d : Delivery} (hnew : d.IsNew) :
      Step s .enqueue { s with db := { s.db with deliveries := s.db.deliveries.insert d } }
  | claim {s : Outbox} {i : ℕ} {worker : String} {now : ℤ} {claimed : List Delivery}
      (hfree : s.drains i = none) (hdue : ∀ d ∈ claimed, d ∈ s.db.deliveries.rows ∧ d.Due now)
      (hnodup : (claimed.map Delivery.id).Nodup) :
      Step s (.claim i)
        { db := s.db.claim worker now (claimed.map Delivery.id)
          drains := Function.update s.drains i
            (some (.sending (claimed.map fun d => (d.claim worker now).job) ⟨0, 0, 0⟩)) }
  | send {s : Outbox} {i : ℕ} {job : Job} {jobs : List Job} {result : DrainResult}
      {sent : Option DeliveryErrorCode} (hi : s.drains i = some (.sending (job :: jobs) result)) :
      Step s (.send i)
        { s with drains := Function.update s.drains i
                  (some (.finalizing job (job.outcome sent) jobs result)) }
  | finalize {s : Outbox} {i : ℕ} {job : Job} {err : Option DeliveryErrorCode} {jobs : List Job}
      {result : DrainResult} {now : ℤ} {db : DeliveryDb}
      (hi : s.drains i = some (.finalizing job err jobs result))
      (hok : s.db.finalize job err now = .ok db) :
      Step s (.finalize i)
        { db := db
          drains := Function.update s.drains i
            (some (.sending jobs (result.count (job.finalStatus err)))) }
  | refused {s : Outbox} {i : ℕ} {job : Job} {err : Option DeliveryErrorCode} {jobs : List Job}
      {result : DrainResult} {now : ℤ} {e : DeliveryRefusal}
      (hi : s.drains i = some (.finalizing job err jobs result))
      (herror : s.db.finalize job err now = .error e) :
      Step s (.finalize i) { s with drains := Function.update s.drains i none }
  | stop {s : Outbox} {i : ℕ} (hi : s.drains i ≠ none) :
      Step s (.stop i) { s with drains := Function.update s.drains i none }

end Daftar.Credentials
