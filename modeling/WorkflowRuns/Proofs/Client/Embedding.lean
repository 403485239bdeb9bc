import WorkflowRuns.Proofs.Client.Failures
import WorkflowRuns.Proofs.Snapshot.Reading
import WorkflowRuns.Recording

/-!
The two ways in which a body holds a snapshot: as a text, or as the document itself.
-/

namespace WorkflowRuns

namespace Snapshot

theorem ofValue_blank (runId : Option String) {d : Json.Document} (blank : d.isBlank = true) :
    ∃ fault, ofValue runId d.value = .error fault := by
  cases d with
  | record fields =>
      cases fields with
      | nil => exact ⟨_, rfl⟩
      | cons field fields => cases blank
  | _ => exact ⟨_, rfl⟩

theorem read_text (runId : Option String) {text : List Text.CodePoint} {d : Json.Document}
    (holds : Json.readDocument text = .ok d) : read runId (.text text) = ofValue runId d.value := by
  rw [read, ofText, Json.read, holds]
  rfl

end Snapshot

namespace Client

variable {text : List Text.CodePoint} {d : Json.Document}

theorem content_text (holds : Json.readDocument text = .ok d) : content (.text text) = .ok text := by
  have nonempty : text ≠ [] := by
    rintro rfl
    cases holds
  simp [content, Json.Document.isBlank, nonempty, holds]

theorem content_blank (blank : d.isBlank = true) : ∃ words, content d = .error (.malformedPayload words) :=
  ⟨_, if_pos blank⟩

theorem content_document (structured : ∀ t, d ≠ .text t) (present : d.isBlank = false) :
    content d = .ok d.write := by
  unfold content
  rw [if_neg (by rw [present]; exact Bool.false_ne_true)]
  split
  next t => exact absurd rfl (structured t)
  next => rfl

end Client

namespace Service

open Client

/-- The run that a status request brings. -/
def brings (s : Service) (runId : String) : Except Failure Snapshot :=
  (s.fetch runId).1.result.bind fun text => (Snapshot.read (some runId) (.text text)).mapError SnapshotFault.failure

/-- A status request is sent and accepted, and the answer holds a document in the place of the results. -/
structure Delivers (s : Service) (runId : String) (results : Json.Document) : Prop where
  asks : s.Asks runId
  gives : ∃ body, s.gives = .answered 200 body ∧ Embeds body results

variable {s quoting inlining : Service} {runId : String} {text : List Text.CodePoint} {results d : Json.Document}

theorem Delivers.result (delivers : s.Delivers runId results) : (s.fetch runId).1.result = content results := by
  obtain ⟨body, gives, embeds⟩ := delivers.gives
  rw [(fetch_spec s runId).result_eq delivers.asks, gives, embeds.fetched_eq]

theorem brings_of_text (given : (s.fetch runId).1.result = .ok text) (holds : Json.readDocument text = .ok d) :
    s.brings runId = (Snapshot.ofValue (some runId) d.value).mapError SnapshotFault.failure := by
  rw [brings, given, Except.bind, Snapshot.read_text (some runId) holds]

/-- A document, other than a text, is read alike whether it is embedded as a text or as it is, if no high half
stands directly before a low one in it.  What is handed on for it holds the document with characters in the
place of such pairs, and so the same document exactly if there are none. -/
theorem embeddings_alike (holds : Json.readDocument text = .ok d) (structured : ∀ t, d ≠ .text t)
    (quoted : quoting.Delivers runId (.text text)) (inlined : inlining.Delivers runId d) :
    (d.Unpaired →
      (∃ snapshot, quoting.brings runId = .ok snapshot ∧ inlining.brings runId = .ok snapshot) ∨
        ∃ first second, quoting.brings runId = .error (.malformedPayload first) ∧
          inlining.brings runId = .error (.malformedPayload second)) ∧
      (d.isBlank = false → ∃ written, (inlining.fetch runId).1.result = .ok written ∧
        Json.readDocument written = .ok d.joined ∧ (Json.readDocument written = .ok d ↔ d.Unpaired)) := by
  have written := Json.read_write_read holds
  have kept := d.joined_eq_iff (Json.proper_of_readDocument holds)
  constructor
  · intro unpaired
    rw [kept.mpr unpaired] at written
    rw [brings_of_text (quoted.result.trans (content_text holds)) holds]
    cases blank : d.isBlank with
    | true =>
        obtain ⟨fault, failed⟩ := Snapshot.ofValue_blank (some runId) blank
        obtain ⟨first, malformed⟩ := Snapshot.ofValue_malformed failed
        obtain ⟨second, missing⟩ := content_blank blank
        refine Or.inr ⟨first, second, ?_, ?_⟩
        · rw [failed, ← malformed]
          rfl
        · rw [brings, inlined.result, missing]
          rfl
    | false =>
        rw [brings_of_text (inlined.result.trans (content_document structured blank)) written]
        cases outcome : Snapshot.ofValue (some runId) d.value with
        | ok snapshot => exact Or.inl ⟨snapshot, rfl, rfl⟩
        | error fault =>
            obtain ⟨words, malformed⟩ := Snapshot.ofValue_malformed outcome
            refine Or.inr ⟨words, words, ?_, ?_⟩ <;>
              · rw [← malformed]
                rfl
  · intro present
    refine ⟨d.write, inlined.result.trans (content_document structured present), written, ?_⟩
    rw [written, Except.ok.injEq, kept]

def answering (body : List UInt8) : Service :=
  { mute with gets := [⟨some 0, .answered 200 body⟩] }

def holding (results : Json.Document) : List UInt8 :=
  Recording.bytesOf (Json.Document.record [("data", .record [("results", results)])]).write

theorem reachable_mute : Reachable mute.base (statusPath "run-1") :=
  ⟨Reference.readable_of_all (by decide) (by decide +kernel), by decide +kernel, by decide +kernel, by decide +kernel⟩

theorem delivers_answering {body : List UInt8} {results : Json.Document}
    (read : readBody body = .ok (.record [("data", .record [("results", results)])])) :
    (answering body).Delivers "run-1" results :=
  ⟨⟨by decide, reachable_mute⟩, body, rfl, _, _, read, rfl, rfl⟩

def finishedText : String := "\x7b\"status\": \"success\", \"nodes\": [], \"meta\": \x7b\"shift\": -3\x7d\x7d"

def finished : Json.Document :=
  .record [("status", .text "success"), ("nodes", .list []), ("meta", .record [("shift", .int (-3))])]

theorem embeddings_alike_finished : Json.readDocument finishedText = .ok finished ∧ finished.isBlank = false ∧
    finished.Unpaired ∧
    (finished.Unpaired →
      (∃ snapshot, (answering (holding (.text finishedText))).brings "run-1" = .ok snapshot ∧
          (answering (holding finished)).brings "run-1" = .ok snapshot) ∨
        ∃ first second, (answering (holding (.text finishedText))).brings "run-1" = .error (.malformedPayload first) ∧
          (answering (holding finished)).brings "run-1" = .error (.malformedPayload second)) ∧
      (finished.isBlank = false → ∃ written, ((answering (holding finished)).fetch "run-1").1.result = .ok written ∧
        Json.readDocument written = .ok finished.joined ∧
          (Json.readDocument written = .ok finished ↔ finished.Unpaired)) := by
  have holds : Json.readDocument finishedText = .ok finished := by decide +kernel
  have unpaired : finished.Unpaired :=
    (finished.joined_eq_iff (Json.proper_of_readDocument holds)).mp (by decide +kernel)
  have quoted : (answering (holding (.text finishedText))).Delivers "run-1" (.text finishedText) :=
    delivers_answering (by decide +kernel)
  have inlined : (answering (holding finished)).Delivers "run-1" finished := delivers_answering (by decide +kernel)
  exact ⟨holds, rfl, unpaired, embeddings_alike holds nofun quoted inlined⟩

def halvedText : List Text.CodePoint :=
  Text.points "\x7b\"status\": \"success\", \"nodes\": [], \"meta\": \x7b\"sign\": \""
    ++ [.half 0x3d, .half 0x600] ++ Text.points "\"\x7d\x7d"

def halved : Json.Document :=
  .record [("status", .text "success"), ("nodes", .list []),
    ("meta", .record [("sign", .text [.half 0x3d, .half 0x600])])]

/-- The same in bytes, each half by three of them. -/
def halvedBody : List UInt8 :=
  Recording.bytesOf "\x7b\"data\": \x7b\"results\": \x7b\"status\": \"success\", \"nodes\": [], \"meta\": \x7b\"sign\": \""
    ++ [0xed, 0xa0, 0xbd, 0xed, 0xb8, 0x80] ++ Recording.bytesOf "\"\x7d\x7d\x7d\x7d"

/-- Two halves are handed on as the character that they spell, and so as another document. -/
theorem halves_joined : Json.readDocument halvedText = .ok halved ∧ (∀ t, halved ≠ .text t) ∧
    halved.isBlank = false ∧ (answering halvedBody).Delivers "run-1" halved ∧
    ∃ written, ((answering halvedBody).fetch "run-1").1.result = .ok written ∧
      Json.readDocument written ≠ .ok halved := by
  have inlined : (answering halvedBody).Delivers "run-1" halved := delivers_answering (by decide +kernel)
  refine ⟨by decide +kernel, nofun, rfl, inlined, halved.write, ?_, by decide +kernel⟩
  exact inlined.result.trans (content_document nofun rfl)

end Service

end WorkflowRuns
