import WordingAudit.Proofs.Collection
import WordingAudit.Proofs.Resolution
import WordingAudit.Proofs.Utf8

/-!
Wordings from the web and from a file. A document gives the same keys, or is refused for the same
reason, wherever it comes from; a reply with a status that is no success is refused before anything
is made of its body.
-/

namespace WordingAudit

/-- The server of a world replies to an address. -/
structure World.Answers (w : World) (url : Text) (reply : Reply) : Prop where
  isUrl : Locator.isUrl url = true
  readable : (Url.ofText? url).isSome = true
  server : w.server = some reply

/-- A path leads to a file that is read as a nested document. -/
structure World.HoldsDocument (w : World) (path : Text) (content : List UInt8) : Prop where
  notUrl : Locator.isUrl path = false
  ending : Text.endsWith path (Text.of ".json") = true
  file : w.files.read path = .ok content

theorem FileTree.readText_encode {t : FileTree} {path text : Text}
    (h : t.read path = .ok (Utf8.encode text)) : t.readText path = .ok text := by
  have hvalue : t.readText path = (t.read path).bind fun content =>
      (Utf8.decode? content).elim (.error .notText) .ok := rfl
  rw [hvalue, h, Except.bind, Utf8.decode?_encode]
  rfl

namespace Wordings

variable {w w' : World} {url path text : Text} {reply : Reply} {status : Nat}

theorem ofSource_of_holds {content : List UInt8} (h : w.HoldsDocument path content) :
    Locator.ofSource path = .ok (.file path .nested) := by
  have hflat : ¬Text.endsWith path (Text.of ".arb") = true := by
    rw [Text.endsWith_iff]
    intro hflat
    rcases List.suffix_or_suffix_of_suffix hflat (Text.endsWith_iff.mp h.ending) with h' | h'
    · exact absurd h' (by decide)
    · exact absurd h' (by decide)
  rw [Locator.ofSource, if_neg (by simp [h.notUrl]), if_neg hflat, if_pos h.ending]

theorem fetch_of_answers (h : w.Answers url reply) :
    (fetch w url).run.value = (replyText reply).mapError (AuditError.fetch url) := by
  obtain ⟨u, hu⟩ := Option.isSome_iff_exists.mp h.readable
  rw [fetch_value, hu, h.server]

/-- A status that is no success is the error, whatever comes with it. -/
theorem replyText_of_status (h : reply.status < 200 ∨ 300 ≤ reply.status) :
    replyText reply = .error (.status reply.status) := by
  rw [replyText, if_pos h]

theorem replyText_encode (h : 200 ≤ status) (h' : status < 300) (text : Text) :
    replyText ⟨status, Utf8.encode text, 0⟩ = .ok text := by
  have hsuccess : ¬(status < 200 ∨ 300 ≤ status) := by omega
  rw [replyText, if_neg hsuccess, if_neg (Nat.lt_irrefl 0), Utf8.decodeLossy_encode]

theorem load_of_status (h : w.Answers url reply) (hstatus : reply.status < 200 ∨ 300 ≤ reply.status) :
    (load w (.url url)).run.value = .error (.fetch url (.status reply.status)) := by
  rw [load_url_value, fetch_of_answers h, replyText_of_status hstatus]
  rfl

theorem load_of_answers (h : w.Answers url ⟨status, Utf8.encode text, 0⟩) (hstatus : 200 ≤ status)
    (hstatus' : status < 300) :
    (load w (.url url)).run.value = (readJson url text).map flatten := by
  rw [load_url_value, fetch_of_answers h, replyText_encode hstatus hstatus']
  rfl

theorem load_of_holds (h : w.HoldsDocument path (Utf8.encode text)) :
    (load w (.file path .nested)).run.value = (readJson path text).map flatten := by
  rw [load_file_value, FileTree.readText_encode h.file]
  rfl

/-- A reply with a status that is no success is an error of fetching, whatever its body is. A text
that is received in full gives the keys that it gives in a file, whatever substitutions follow; if it
is malformed, it is so in both places. -/
theorem keys_of_reply (w : World) (url : Text) :
    (∀ reply, w.Answers url reply → (reply.status < 200 ∨ 300 ≤ reply.status) →
      (load w (.url url)).run.value = .error (.fetch url (.status reply.status)) ∧
        ∀ list, (keys w (some url) list).run.value = .error (.fetch url (.status reply.status))) ∧
    ∀ status text, w.Answers url ⟨status, Utf8.encode text, 0⟩ → 200 ≤ status → status < 300 →
      ∀ (w' : World) path, w'.HoldsDocument path (Utf8.encode text) → ∀ list,
        (∃ s, (keys w (some url) list).run.value = .ok s ∧
          (keys w' (some path) list).run.value = .ok s) ∨
        ∃ problem, (keys w (some url) list).run.value = .error (.json url problem) ∧
          (keys w' (some path) list).run.value = .error (.json path problem) := by
  constructor
  · intro reply hreply hstatus
    have hload := load_of_status hreply hstatus
    refine ⟨hload, fun list => ?_⟩
    rw [keys_value, Locator.ofSource_of_isUrl hreply.isUrl, Except.bind, hload]
    rfl
  · intro status text hreply hstatus hstatus' w' path hfile list
    rw [keys_value, keys_value, Locator.ofSource_of_isUrl hreply.isUrl, ofSource_of_holds hfile, Except.bind,
      Except.bind, load_of_answers hreply hstatus hstatus', load_of_holds hfile, readJson, readJson]
    cases Json.read? text with
    | none => exact .inr ⟨_, rfl, rfl⟩
    | some value => exact .inl ⟨_, rfl, rfl⟩

/-- A server that replies with a document, which is also in a file beside it. -/
def mirroredWorld (status : Nat) (document : String) : World where
  files := {
    top := .directory [(Text.of "w.json", .file (Utf8.encode (Text.of document)))]
    workingDirectory := [] }
  server := some ⟨status, Utf8.encode (Text.of document), 0⟩

theorem answers_mirroredWorld (status : Nat) (document : String) :
    (mirroredWorld status document).Answers (Text.of "http://h/en")
      ⟨status, Utf8.encode (Text.of document), 0⟩ :=
  ⟨by decide, by decide +kernel, rfl⟩

theorem holdsDocument_mirroredWorld (status : Nat) (document : String) :
    (mirroredWorld status document).HoldsDocument (Text.of "w.json")
      (Utf8.encode (Text.of document)) :=
  ⟨by decide, by decide, rfl⟩

def sampleDocument : String := "\x7b\"a\": \x7b\"é€\": 1\x7d, \"b\": 2\x7d"

/-- Two substitutions, one of which empties a key. -/
def sampleSubstitutions : List Substitution :=
  [⟨Text.of "é", some ['e']⟩, ⟨Text.of "^b$", none⟩]

/-- A document with a character of three octets, a cut one, and one that comes with a status that is
no success, each with two substitutions for its keys. -/
theorem keys_of_reply_sample :
    ∃ list, Substitution.compileAll sampleSubstitutions = .ok list ∧
      (mirroredWorld 201 sampleDocument).Answers (Text.of "http://h/en")
        ⟨201, Utf8.encode (Text.of sampleDocument), 0⟩ ∧
      (mirroredWorld 201 sampleDocument).HoldsDocument (Text.of "w.json")
        (Utf8.encode (Text.of sampleDocument)) ∧
      (keys (mirroredWorld 201 sampleDocument) (some (Text.of "http://h/en")) list).run.value =
        .ok ⟨[Text.of "a.e€"], by decide⟩ ∧
      (∃ problem, (keys (mirroredWorld 200 "\x7b") (some (Text.of "http://h/en")) list).run.value =
        .error (.json (Text.of "http://h/en") problem)) ∧
      (keys (mirroredWorld 301 "\x7b\x7d") (some (Text.of "http://h/en")) list).run.value =
        .error (.fetch (Text.of "http://h/en") (.status 301)) := by
  have hfiles : ((Substitution.compileAll sampleSubstitutions).map fun list =>
      ((keys (mirroredWorld 201 sampleDocument) (some (Text.of "w.json")) list).run.value,
        (keys (mirroredWorld 200 "\x7b") (some (Text.of "w.json")) list).run.value)) =
      .ok (.ok ⟨[Text.of "a.e€"], by decide⟩, .error (.json (Text.of "w.json") .syntaxError)) := by
    decide +kernel
  obtain ⟨list, hlist, hfiles⟩ := Result.map_eq_ok.mp hfiles
  obtain ⟨hfile, hcut⟩ := Prod.mk.inj hfiles
  refine ⟨list, hlist, answers_mirroredWorld _ _, holdsDocument_mirroredWorld _ _, ?_, ?_, ?_⟩
  · rcases (keys_of_reply _ _).2 201 _ (answers_mirroredWorld _ _) (by decide) (by decide) _ _
      (holdsDocument_mirroredWorld 201 _) list with ⟨s, hurl, hs⟩ | ⟨problem, -, hproblem⟩
    · cases hfile.symm.trans hs
      exact hurl
    · cases hfile.symm.trans hproblem
  · rcases (keys_of_reply _ _).2 200 _ (answers_mirroredWorld _ _) (by decide) (by decide) _ _
      (holdsDocument_mirroredWorld 200 "\x7b") list with ⟨s, -, hs⟩ | ⟨problem, hurl, -⟩
    · cases hcut.symm.trans hs
    · exact ⟨problem, hurl⟩
  · exact ((keys_of_reply _ _).1 _ (answers_mirroredWorld 301 "\x7b\x7d") (by decide)).2 list

end Wordings

end WordingAudit
