import Snip36.Support.Paths

/-!
# Playground — the files of a session

`prove_block` and `prove_transaction` name their files after the session: they join the session id,
as the client sent it, and a suffix to `output_dir/playground`.

`separate_iff`: the files of two requests lie in that directory, and are different files when the
sessions are different, exactly when what stands before the last slash of each id leads back to the
directory and what stands after it names different files.  An id without a slash leads back
(`leadsBack_of_noSlash`).
-/

namespace Snip36.Playground
open Support Paths

/-! ### Files -/

/-- `output_dir`, of the handlers. -/
def playgroundDir (outputDir : String) : String := join outputDir "playground"

/-- `tx_path`. -/
def txPath (outputDir sessionId : String) : String :=
  join (playgroundDir outputDir) (sessionId ++ "_tx.json")

/-- `proof_path`, and `proof_output`. -/
def proofPath (outputDir sessionId : String) : String :=
  join (playgroundDir outputDir) (sessionId ++ ".proof")

/-- `messages_file`. -/
def blockMessagesFile (outputDir sessionId : String) : String :=
  withExtension (proofPath outputDir sessionId) "raw_messages.json"

/-- `proof_facts_file`, of `prove_block`. -/
def blockProofFactsFile (outputDir sessionId : String) : String :=
  withExtension (proofPath outputDir sessionId) "proof_facts"

/-- A request that has a proof made, with the session id that it carries. -/
inductive ProofRequest where
  | proveBlock (sessionId : String)
  | proveTransaction (sessionId : String)

/-- The session id of a request. -/
def ProofRequest.sessionId : ProofRequest → String
  | .proveBlock sessionId => sessionId
  | .proveTransaction sessionId => sessionId

/-- The files that a request creates, or hands to the prover, or takes from it.  The facts that
the script of `prove_transaction` writes beside the proof are not among them. -/
def ProofRequest.files (outputDir : String) : ProofRequest → List String
  | .proveBlock sessionId => [
      txPath outputDir sessionId,
      proofPath outputDir sessionId,
      blockMessagesFile outputDir sessionId,
      blockProofFactsFile outputDir sessionId]
  | .proveTransaction sessionId => [proofPath outputDir sessionId]

/-- The files of two requests lie in the directory of the playground, and those of different
sessions are different. -/
def Separate (outputDir : String) (r r' : ProofRequest) : Prop :=
  (∀ path ∈ r.files outputDir ++ r'.files outputDir, DirectlyIn (playgroundDir outputDir) path) ∧
    (r.sessionId ≠ r'.sessionId →
      ∀ path ∈ r.files outputDir, ∀ path' ∈ r'.files outputDir, place path ≠ place path')

/-- What stands before the last slash of a session id leads back to the directory. -/
def LeadsBack (outputDir sessionId : String) : Prop :=
  place (joinedBase (playgroundDir outputDir) sessionId) = place (playgroundDir outputDir)

instance (outputDir sessionId : String) : Decidable (LeadsBack outputDir sessionId) :=
  inferInstanceAs (Decidable (place _ = place _))

/-- What stands after the last slashes names different files: it differs, and it is not nothing and
`.proof`, whose proof files `.proof` and `.proof.proof` take the same extensions. -/
def Apart (r r' : ProofRequest) : Prop :=
  lastPart r.sessionId ≠ lastPart r'.sessionId ∧
    match r, r' with
    | .proveBlock sessionId, .proveBlock sessionId' =>
        ¬ (lastPart sessionId = "" ∧ lastPart sessionId' = ".proof") ∧
          ¬ (lastPart sessionId = ".proof" ∧ lastPart sessionId' = "")
    | _, _ => True

/-! ### Names -/

/-- The kinds of files. -/
inductive SessionFile where
  | tx
  | proof
  | messages
  | proofFacts
  deriving DecidableEq

instance : Fintype SessionFile where
  elems := {.tx, .proof, .messages, .proofFacts}
  complete kind := by cases kind <;> decide

namespace SessionFile

/-- How a name of a kind ends. -/
def suffix : SessionFile → List Char
  | .tx => "_tx.json".toList
  | .proof => ".proof".toList
  | .messages => ".raw_messages.json".toList
  | .proofFacts => ".proof_facts".toList

/-- How a name of a kind begins, after the end of a session id. -/
def stem (last : List Char) : SessionFile → List Char
  | .tx | .proof => last
  | .messages | .proofFacts => if last = [] then ".proof".toList else last

/-- The name of the file of a kind. -/
def name (sessionId : String) (kind : SessionFile) : List Char :=
  kind.stem (lastPart sessionId).toList ++ kind.suffix

/-- The path of the file of a kind. -/
def path (outputDir sessionId : String) (kind : SessionFile) : String :=
  joinedBase (playgroundDir outputDir) sessionId ++ String.ofList (kind.name sessionId)

end SessionFile

/-- The kinds of the files of a request. -/
def ProofRequest.kinds : ProofRequest → List SessionFile
  | .proveBlock _ => [.tx, .proof, .messages, .proofFacts]
  | .proveTransaction _ => [.proof]

theorem noSlash_suffix (kind : SessionFile) : '/' ∉ kind.suffix := by
  cases kind <;> decide

theorem isName_name (sessionId : String) (kind : SessionFile) : IsName (kind.name sessionId) := by
  have hlast := noSlash_lastPart sessionId
  have hlen : 3 ≤ (kind.name sessionId).length := by
    rw [SessionFile.name, List.length_append]
    have hsuffix : 3 ≤ kind.suffix.length := by cases kind <;> decide
    omega
  have hne (short : List Char) (hshort : short.length < 3) : kind.name sessionId ≠ short := by
    intro heq
    rw [heq] at hlen
    omega
  refine ⟨?_, hne _ (by decide), hne _ (by decide), hne _ (by decide)⟩
  rw [SessionFile.name, List.mem_append, not_or]
  refine ⟨?_, noSlash_suffix kind⟩
  cases kind with
  | tx => exact hlast
  | proof => exact hlast
  | messages =>
      rw [SessionFile.stem]
      split
      · decide
      · exact hlast
  | proofFacts =>
      rw [SessionFile.stem]
      split
      · decide
      · exact hlast

theorem txPath_eq (outputDir sessionId : String) :
    txPath outputDir sessionId = SessionFile.path outputDir sessionId .tx :=
  join_suffix (playgroundDir outputDir) sessionId (noSlash_suffix .tx)

theorem proofPath_eq (outputDir sessionId : String) :
    proofPath outputDir sessionId = SessionFile.path outputDir sessionId .proof :=
  join_suffix (playgroundDir outputDir) sessionId (noSlash_suffix .proof)

/-- The name of the proof file with another extension. -/
theorem withExtension_proofPath (outputDir sessionId extension : String)
    (h : '/' ∉ extension.toList) :
    withExtension (proofPath outputDir sessionId) extension
      = joinedBase (playgroundDir outputDir) sessionId
        ++ String.ofList ((if (lastPart sessionId).toList = [] then ".proof".toList
          else (lastPart sessionId).toList) ++ '.' :: extension.toList) := by
  have hstem : fileStem (SessionFile.name sessionId .proof)
      = if (lastPart sessionId).toList = [] then ".proof".toList
        else (lastPart sessionId).toList :=
    fileStem_append (by decide)
  rw [proofPath_eq, SessionFile.path, withExtension_append (isBase_joinedBase _ _)
    (isName_name sessionId .proof) h, hstem]

/-- **The files of a request, by their names.** -/
theorem files_eq (outputDir : String) (r : ProofRequest) :
    r.files outputDir = r.kinds.map (SessionFile.path outputDir r.sessionId) := by
  cases r with
  | proveBlock sessionId =>
      have hmessages :=
        withExtension_proofPath outputDir sessionId "raw_messages.json" (by decide)
      have hfacts := withExtension_proofPath outputDir sessionId "proof_facts" (by decide)
      rw [ProofRequest.files, txPath_eq, blockMessagesFile, blockProofFactsFile, hmessages, hfacts,
        proofPath_eq]
      rfl
  | proveTransaction sessionId =>
      rw [ProofRequest.files, proofPath_eq]
      rfl

/-- Names that end in texts of which neither is the end of the other are different. -/
theorem append_ne {as bs suffix suffix' : List Char} (hle : suffix.length ≤ suffix'.length)
    (hne : suffix'.drop (suffix'.length - suffix.length) ≠ suffix) :
    as ++ suffix ≠ bs ++ suffix' := by
  intro heq
  rw [← List.take_append_drop (suffix'.length - suffix.length) suffix', ← List.append_assoc] at heq
  refine hne (List.append_inj' heq ?_).2.symm
  rw [List.length_drop]
  omega

/-- No suffix is the end of another. -/
theorem suffix_ne_end {kind kind' : SessionFile} (hne : kind ≠ kind') :
    kind'.suffix.drop (kind'.suffix.length - kind.suffix.length) ≠ kind.suffix := by
  cases kind <;> cases kind' <;> first
    | exact absurd rfl hne
    | decide +kernel

/-- Files of two kinds have two names. -/
theorem eq_of_append_suffix {as bs : List Char} {kind kind' : SessionFile}
    (h : as ++ kind.suffix = bs ++ kind'.suffix) : kind = kind' ∧ as = bs := by
  have hkind : kind = kind' := by
    by_contra hne
    rcases Nat.le_total kind.suffix.length kind'.suffix.length with hle | hle
    · exact append_ne hle (suffix_ne_end hne) h
    · exact append_ne hle (suffix_ne_end (Ne.symm hne)) h.symm
  subst hkind
  exact ⟨rfl, List.append_cancel_right h⟩

theorem stem_ne_iff {last last' : List Char} :
    (∀ kind : SessionFile, kind.stem last ≠ kind.stem last') ↔
      last ≠ last' ∧ ¬ (last = [] ∧ last' = ".proof".toList) ∧
        ¬ (last = ".proof".toList ∧ last' = []) := by
  constructor
  · intro h
    refine ⟨h .tx, ?_, ?_⟩
    · rintro ⟨rfl, rfl⟩
      exact h .proofFacts rfl
    · rintro ⟨rfl, rfl⟩
      exact h .proofFacts rfl
  · rintro ⟨hne, hempty, hempty'⟩ kind
    have hextension : (if last = [] then ".proof".toList else last)
        ≠ if last' = [] then ".proof".toList else last' := by
      split
      next hnil =>
        subst hnil
        rw [if_neg (Ne.symm hne)]
        exact fun heq => hempty ⟨rfl, heq.symm⟩
      next =>
        split
        next hnil =>
          subst hnil
          exact fun heq => hempty' ⟨heq, rfl⟩
        next => exact hne
    cases kind with
    | tx => exact hne
    | proof => exact hne
    | messages => exact hextension
    | proofFacts => exact hextension

/-! ### Two requests -/

theorem toList_eq_iff (text text' : String) : text.toList = text'.toList ↔ text = text' :=
  ⟨fun h => String.toList_injective h, congrArg String.toList⟩

theorem proof_mem_kinds (r : ProofRequest) : .proof ∈ r.kinds := by
  cases r <;> simp [ProofRequest.kinds]

theorem mem_kinds_proveBlock (sessionId : String) (kind : SessionFile) :
    kind ∈ (ProofRequest.proveBlock sessionId).kinds := by
  cases kind <;> simp [ProofRequest.kinds]

theorem mem_kinds_proveTransaction {sessionId : String} {kind : SessionFile} :
    kind ∈ (ProofRequest.proveTransaction sessionId).kinds ↔ kind = .proof :=
  List.mem_singleton

/-- The kinds that two requests share have different beginnings exactly when their names are
apart. -/
theorem apart_iff {r r' : ProofRequest} :
    Apart r r' ↔ ∀ kind ∈ r.kinds, kind ∈ r'.kinds →
      kind.stem (lastPart r.sessionId).toList ≠ kind.stem (lastPart r'.sessionId).toList := by
  have hproof : lastPart r.sessionId ≠ lastPart r'.sessionId ↔
      (lastPart r.sessionId).toList ≠ (lastPart r'.sessionId).toList :=
    not_congr (toList_eq_iff ..).symm
  have hone (hkinds : ∀ kind ∈ r.kinds, kind ∈ r'.kinds → kind = .proof) :
      (∀ kind ∈ r.kinds, kind ∈ r'.kinds →
        kind.stem (lastPart r.sessionId).toList ≠ kind.stem (lastPart r'.sessionId).toList) ↔
      (lastPart r.sessionId).toList ≠ (lastPart r'.sessionId).toList := by
    constructor
    · exact fun h => h .proof (proof_mem_kinds r) (proof_mem_kinds r')
    · intro hne kind hmem hmem'
      obtain rfl := hkinds kind hmem hmem'
      exact hne
  cases r with
  | proveBlock sessionId =>
      cases r' with
      | proveBlock sessionId' =>
          have hall : (∀ kind ∈ (ProofRequest.proveBlock sessionId).kinds,
              kind ∈ (ProofRequest.proveBlock sessionId').kinds →
                kind.stem (lastPart sessionId).toList ≠ kind.stem (lastPart sessionId').toList) ↔
              ∀ kind : SessionFile,
                kind.stem (lastPart sessionId).toList ≠ kind.stem (lastPart sessionId').toList :=
            ⟨fun h kind => h kind (mem_kinds_proveBlock _ kind) (mem_kinds_proveBlock _ kind),
              fun h kind _ _ => h kind⟩
          have hempty (text : String) : text.toList = [] ↔ text = "" := toList_eq_iff text ""
          simp only [ProofRequest.sessionId] at hproof ⊢
          rw [hall, stem_ne_iff, ← hproof, hempty, hempty, toList_eq_iff, toList_eq_iff]
          rfl
      | proveTransaction sessionId' =>
          rw [hone fun kind _ hmem' => mem_kinds_proveTransaction.mp hmem', ← hproof]
          exact and_iff_left trivial
  | proveTransaction sessionId =>
      rw [hone fun kind hmem _ => mem_kinds_proveTransaction.mp hmem, ← hproof]
      exact and_iff_left trivial

/-- A file lies in the directory exactly when its session id leads back to it. -/
theorem directlyIn_path_iff {outputDir sessionId : String} {kind : SessionFile} :
    DirectlyIn (playgroundDir outputDir) (SessionFile.path outputDir sessionId kind) ↔
      LeadsBack outputDir sessionId :=
  directlyIn_append_iff (isBase_joinedBase _ _) (isName_name sessionId kind)

/-- Of session ids that lead back, the files are one exactly when their names are. -/
theorem place_path_eq_iff {outputDir sessionId sessionId' : String} {kind kind' : SessionFile}
    (h : LeadsBack outputDir sessionId) (h' : LeadsBack outputDir sessionId') :
    place (SessionFile.path outputDir sessionId kind)
        = place (SessionFile.path outputDir sessionId' kind') ↔
      kind = kind' ∧
        kind.stem (lastPart sessionId).toList = kind.stem (lastPart sessionId').toList := by
  rw [SessionFile.path, SessionFile.path, place_append_eq_iff (isBase_joinedBase _ _)
    (isBase_joinedBase _ _) (isName_name sessionId kind) (isName_name sessionId' kind'),
    and_iff_right (h.trans h'.symm), SessionFile.name, SessionFile.name]
  constructor
  · intro heq
    obtain ⟨rfl, hstem⟩ := eq_of_append_suffix heq
    exact ⟨rfl, hstem⟩
  · rintro ⟨rfl, hstem⟩
    rw [hstem]

/-- **When the files of two requests are separate**: the session ids lead back to the directory and,
when they are different, name different files. -/
theorem separate_iff (outputDir : String) (r r' : ProofRequest) :
    Separate outputDir r r' ↔
      LeadsBack outputDir r.sessionId ∧ LeadsBack outputDir r'.sessionId ∧
        (r.sessionId ≠ r'.sessionId → Apart r r') := by
  have hmem {q : ProofRequest} {kind : SessionFile} (hkind : kind ∈ q.kinds) :
      SessionFile.path outputDir q.sessionId kind ∈ q.files outputDir := by
    rw [files_eq]
    exact List.mem_map_of_mem hkind
  constructor
  · rintro ⟨hin, hne⟩
    have hback : LeadsBack outputDir r.sessionId :=
      directlyIn_path_iff.mp (hin _ (List.mem_append_left _ (hmem (proof_mem_kinds r))))
    have hback' : LeadsBack outputDir r'.sessionId :=
      directlyIn_path_iff.mp (hin _ (List.mem_append_right _ (hmem (proof_mem_kinds r'))))
    refine ⟨hback, hback', fun hid => apart_iff.mpr fun kind hkind hkind' hstem => ?_⟩
    exact hne hid _ (hmem hkind) _ (hmem hkind')
      ((place_path_eq_iff hback hback').mpr ⟨rfl, hstem⟩)
  · rintro ⟨hback, hback', hapart⟩
    constructor
    · intro path hpath
      rw [files_eq, files_eq, List.mem_append] at hpath
      rcases hpath with hpath | hpath
      · obtain ⟨kind, -, rfl⟩ := List.mem_map.mp hpath
        exact directlyIn_path_iff.mpr hback
      · obtain ⟨kind, -, rfl⟩ := List.mem_map.mp hpath
        exact directlyIn_path_iff.mpr hback'
    · intro hid path hpath path' hpath' heq
      rw [files_eq] at hpath hpath'
      obtain ⟨kind, hkind, rfl⟩ := List.mem_map.mp hpath
      obtain ⟨kind', hkind', rfl⟩ := List.mem_map.mp hpath'
      obtain ⟨rfl, hstem⟩ := (place_path_eq_iff hback hback').mp heq
      exact apart_iff.mp (hapart hid) kind hkind hkind' hstem

/-- A session id of one segment leads back. -/
theorem leadsBack_of_noSlash (outputDir : String) {sessionId : String}
    (h : '/' ∉ sessionId.toList) : LeadsBack outputDir sessionId := by
  have hdir : dirPart sessionId = "" := by
    have hall : ∀ c ∈ sessionId.toList.reverse, decide (c ≠ '/') = true :=
      fun c hc => decide_eq_true fun heq => h (heq ▸ List.mem_reverse.mp hc)
    rw [dirPart, List.dropWhile_eq_nil_iff.mpr hall]
    rfl
  rw [LeadsBack, joinedBase, hdir, place_join_empty]

/-- A session id with `..` puts its files next to the directory, and two spellings of one path name
one file. -/
theorem not_separate :
    ¬ Separate "output" (.proveBlock "../x") (.proveBlock "y") ∧
      ¬ Separate "output" (.proveTransaction "a") (.proveTransaction "./a") := by
  constructor
  · rintro ⟨hin, -⟩
    have hproof := hin (proofPath "output" "../x") (by simp [ProofRequest.files])
    rw [proofPath_eq, directlyIn_path_iff] at hproof
    exact absurd hproof (by decide +kernel)
  · rintro ⟨-, hne⟩
    exact hne (by decide) (proofPath "output" "a") (by simp [ProofRequest.files])
      (proofPath "output" "./a") (by simp [ProofRequest.files]) (by decide +kernel)

end Snip36.Playground
