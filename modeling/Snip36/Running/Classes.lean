import Snip36.Running.OsHints
import Snip36.Support.Joining

/-!
# Running — the classes of a run

`classes_provider.rs` fetches the classes that a block executed, one task for each, and collects
them into the two maps of the OS: from class hashes to compiled class hashes, and from these to
CASM classes.  The tasks run in parallel; what they return is put back to the class hashes by
iterating over the set of them once more.

`fetched_of_joined`: whatever the order in which the tasks end, a result stands at the place of
the class hash it was fetched for.  So the maps pair what was fetched together
(`collectClasses_spec`).
-/

namespace Snip36.Running
open Support

/-! ### Fetching a class -/

/-- `ClassesProviderError`. -/
inductive ClassesProviderError where
  | getClassesError (msg : String)
  | deprecatedContractError (classHash : ClassHash)
  | invalidBytecodeElement
  | stateError (msg : String)
  | hintsConversionError (msg : String)
  deriving DecidableEq

/-- `MaybeRelocatable`. -/
inductive MaybeRelocatable where
  | int (felt : Felt)
  | relocatableValue (segmentIndex : ℤ) (offset : ℕ)

/-- `RunnableCompiledClass`, over the classes of its versions. -/
inductive RunnableCompiledClass (V0 V1 V1Native : Type) where
  | v0 (compiledClass : V0)
  | v1 (compiledClass : V1)
  | v1Native (compiledClass : V1Native)

/-- The fields of a `CasmContractClass`. -/
structure CasmFields (SegmentLengths Hints EntryPoints : Type) where
  prime : ℕ
  compilerVersion : String
  bytecode : List ℕ
  bytecodeSegmentLengths : Option SegmentLengths
  hints : Hints
  pythonicHints : Option (List (ℕ × List String))
  entryPointsByType : EntryPoints

/-- The contract manager and the crates of compiled classes. -/
structure ClassCrates (b : Blockifier) where
  CompiledClassV0 : Type
  CompiledClassV1 : Type
  NativeCompiledClassV1 : Type
  SegmentLengths : Type
  Hints : Type
  EntryPoints : Type
  getCompiledClass : ClassHash →
    Except String (RunnableCompiledClass CompiledClassV0 CompiledClassV1 NativeCompiledClassV1)
  getCompiledClassHashV2 : ClassHash →
    RunnableCompiledClass CompiledClassV0 CompiledClassV1 NativeCompiledClassV1 →
    Except String CompiledClassHash
  /-- `NativeCompiledClassV1::casm`. -/
  casm : NativeCompiledClassV1 → CompiledClassV1
  iterData : CompiledClassV1 → List MaybeRelocatable
  bytecodeSegmentFeltSizes : CompiledClassV1 → SegmentLengths
  programHintsToCasmHints : CompiledClassV1 → Except String Hints
  entryPointsByType : CompiledClassV1 → EntryPoints
  casmContractClass : CasmFields SegmentLengths Hints EntryPoints → b.CasmContractClass
  /-- The feature `cairo_native` of the prover's crate. -/
  cairoNative : Bool
  /-- The text of the `JoinError` of a task that panicked. -/
  panicText : String → String

section Fetching

variable {b : Blockifier} (k : ClassCrates b)

/-- The element of a bytecode, which has no relocatable values. -/
def bytecodeElement : MaybeRelocatable → Except ClassesProviderError ℕ
  | .int felt => .ok felt.val
  | .relocatableValue _ _ => .error .invalidBytecodeElement

/-- `compiled_class_v1_to_casm`. -/
def compiledClassV1ToCasm (compiledClass : k.CompiledClassV1) :
    Except ClassesProviderError b.CasmContractClass := do
  let bytecode ← (k.iterData compiledClass).mapM bytecodeElement
  let hints ← (k.programHintsToCasmHints compiledClass).mapError .hintsConversionError
  pure (k.casmContractClass {
    prime := feltPrime
    compilerVersion := ""
    bytecode
    bytecodeSegmentLengths := some (k.bytecodeSegmentFeltSizes compiledClass)
    hints
    pythonicHints := none
    entryPointsByType := k.entryPointsByType compiledClass })

/-- `fetch_class`. -/
def fetchClass (classHash : ClassHash) :
    Fallible ClassesProviderError (CompiledClassHash × b.CasmContractClass) := do
  let compiledClass ← orErr .stateError (k.getCompiledClass classHash)
  let compiledClassHash ←
    orErr .stateError (k.getCompiledClassHashV2 classHash compiledClass)
  match compiledClass with
  | .v0 _ => .error (.err (.deprecatedContractError classHash))
  | .v1 compiledClassV1 => do
      let casm ← orErr id (compiledClassV1ToCasm k compiledClassV1)
      pure (compiledClassHash, casm)
  | .v1Native compiledClassV1Native =>
      if k.cairoNative then do
        let casm ← orErr id (compiledClassV1ToCasm k (k.casm compiledClassV1Native))
        pure (compiledClassHash, casm)
      else .error (.panic "internal error: entered unreachable code")

/-- A class that is fetched is not deprecated. -/
theorem not_deprecated_of_fetchClass {classHash : ClassHash}
    {fetched : CompiledClassHash × b.CasmContractClass} (h : fetchClass k classHash = .ok fetched)
    (v0 : k.CompiledClassV0) : k.getCompiledClass classHash ≠ .ok (.v0 v0) := by
  intro hv0
  obtain ⟨compiledClass, hclass, h⟩ := bind_eq_ok.mp h
  obtain ⟨compiledClassHash, -, h⟩ := bind_eq_ok.mp h
  obtain rfl : compiledClass = .v0 v0 := Except.ok.inj ((orErr_eq_ok.mp hclass).symm.trans hv0)
  cases h

/-! ### Fetching the classes of a set -/

/-- What a task returns when it runs to its end. -/
abbrev FetchResult (b : Blockifier) :=
  Except ClassesProviderError (CompiledClassHash × b.CasmContractClass)

/-- The end of the task of the `i`-th class hash: it runs to its end, or it is stopped with a
join error.  A panic is a join error. -/
def taskOutcome (executedClassHashes : List ClassHash) (i : ℕ) :
    Option String → Except String (FetchResult b)
  | some joinError => .error joinError
  | none =>
      match executedClassHashes[i]?.map (fetchClass k) with
      | some (.ok fetched) => .ok (.ok fetched)
      | some (.error (.err e)) => .ok (.error e)
      | some (.error (.panic msg)) => .error (k.panicText msg)
      | none => .error "no such task"

/-- The parallel tasks of `get_classes`, over what can happen to them. -/
def fetchStep (executedClassHashes : List ClassHash) :
    Joining String (FetchResult b) → JoinEvent (Option String) →
      Option (Joining String (FetchResult b)) :=
  joinStep (taskOutcome k executedClassHashes)

/-- The tasks are spawned. -/
def spawned (executedClassHashes : List ClassHash) : Joining String (FetchResult b) :=
  .start executedClassHashes.length

/-- The loop body of `get_classes`. -/
def collectClass (classes : ClassesInput b) (fetched : ClassHash × FetchResult b) :
    Except ClassesProviderError (ClassesInput b) := do
  let (compiledClassHash, casm) ← fetched.2
  pure {
    compiledClasses := classes.compiledClasses.insert compiledClassHash casm
    classHashToCompiledClassHash :=
      classes.classHashToCompiledClassHash.insert fetched.1 compiledClassHash }

/-- The loop of `get_classes`. -/
def collectClasses (executedClassHashes : List ClassHash) (results : List (FetchResult b)) :
    Except ClassesProviderError (ClassesInput b) :=
  (executedClassHashes.zip results).foldlM collectClass ⟨.empty, .empty⟩

/-- `get_classes`, from what awaiting the tasks returned. -/
def getClasses (executedClassHashes : List ClassHash)
    (joined : Except String (List (FetchResult b))) :
    Except ClassesProviderError (ClassesInput b) := do
  let results ← joined.mapError fun e => .getClassesError ("Task join error: " ++ e)
  collectClasses executedClassHashes results

/-! ### The results at their places -/

variable {k} {executedClassHashes : List ClassHash}

/-- The result is the one of fetching the class. -/
def Fetched (k : ClassCrates b) (classHash : ClassHash) (result : FetchResult b) : Prop :=
  fetchClass k classHash = orErr id result

theorem fetched_of_taskOutcome {i : ℕ} {t : Option String} {result : FetchResult b}
    (h : taskOutcome k executedClassHashes i t = .ok result) {classHash : ClassHash}
    (hi : executedClassHashes[i]? = some classHash) : Fetched k classHash result := by
  cases t with
  | some joinError => cases h
  | none =>
      simp only [taskOutcome, hi, Option.map_some] at h
      rw [Fetched]
      match hfetch : fetchClass k classHash with
      | .ok fetched =>
          rw [hfetch] at h
          obtain rfl := Except.ok.inj h
          rfl
      | .error (.err e) =>
          rw [hfetch] at h
          obtain rfl := Except.ok.inj h
          rfl
      | .error (.panic msg) =>
          rw [hfetch] at h
          cases h

/-- **Every result stands at the place of its class hash**, whatever the order of the tasks. -/
theorem fetched_of_joined {s : Joining String (FetchResult b)}
    (hs : Joined (taskOutcome k executedClassHashes) executedClassHashes.length s)
    {results : List (FetchResult b)} (hr : s.result = some (.ok results)) :
    List.Forall₂ (Fetched k) executedClassHashes results := by
  have hended := hs.values results hr
  have hlen : executedClassHashes.length = results.length := by
    rw [← hs.length, hended, List.length_map]
  refine List.forall₂_iff_get.mpr ⟨hlen, fun i hi hi' => ?_⟩
  have hget : s.ended[i]? = some (some (.ok results[i])) := by
    rw [hended, List.getElem?_map, List.getElem?_eq_getElem hi']
    rfl
  obtain ⟨t, ht⟩ := hs.ends i _ hget
  exact fetched_of_taskOutcome ht.symm (List.getElem?_eq_getElem hi)

/-! ### The maps -/

/-- The loop ends well exactly when every result is a class, and inserts what was fetched. -/
theorem collectClass_foldlM_eq_ok :
    ∀ {fetched : List (ClassHash × FetchResult b)} {classes classes' : ClassesInput b},
      fetched.foldlM collectClass classes = .ok classes' ↔
        ∃ pairs : List (CompiledClassHash × b.CasmContractClass),
          fetched.map Prod.snd = pairs.map .ok ∧
          classes' = {
            compiledClasses := classes.compiledClasses.extend pairs
            classHashToCompiledClassHash := classes.classHashToCompiledClassHash.extend
              ((fetched.map Prod.fst).zip (pairs.map Prod.fst)) }
  | [], classes, classes' => by
      rw [List.foldlM_nil, pure_eq_ok]
      constructor
      · rintro rfl
        exact ⟨[], rfl, rfl⟩
      · rintro ⟨pairs, hpairs, rfl⟩
        obtain rfl : pairs = [] := by simpa [eq_comm] using hpairs
        rfl
  | (classHash, result) :: fetched, classes, classes' => by
      rw [List.foldlM_cons, bind_eq_ok]
      constructor
      · rintro ⟨classes₁, h₁, h⟩
        obtain ⟨pair, hpair, h₁⟩ := bind_eq_ok.mp h₁
        obtain rfl := pure_eq_ok.mp h₁
        obtain ⟨pairs, hpairs, rfl⟩ := collectClass_foldlM_eq_ok.mp h
        refine ⟨pair :: pairs, ?_, rfl⟩
        rw [List.map_cons, List.map_cons, hpairs]
        exact congrArg (· :: _) hpair
      · rintro ⟨pairs, hpairs, rfl⟩
        cases pairs with
        | nil => cases hpairs
        | cons pair pairs =>
            obtain ⟨hpair, hpairs⟩ := List.cons.inj hpairs
            refine ⟨_, bind_eq_ok.mpr ⟨pair, hpair, rfl⟩, ?_⟩
            exact collectClass_foldlM_eq_ok.mpr ⟨pairs, hpairs, rfl⟩

theorem map_zip_of_forall₂ {α β : Type} {R : α → β → Prop} {as : List α} {bs : List β}
    (h : List.Forall₂ R as bs) : (as.zip bs).map Prod.fst = as ∧ (as.zip bs).map Prod.snd = bs :=
  ⟨List.map_fst_zip h.length_eq.le, List.map_snd_zip h.length_eq.ge⟩

/-- Every result is a class exactly when all of the classes were fetched. -/
theorem results_eq_map_ok_iff {results : List (FetchResult b)}
    (h : List.Forall₂ (Fetched k) executedClassHashes results)
    {pairs : List (CompiledClassHash × b.CasmContractClass)} :
    results = pairs.map .ok ↔
      List.Forall₂ (fun classHash pair => fetchClass k classHash = .ok pair)
        executedClassHashes pairs := by
  constructor
  · rintro rfl
    exact (List.forall₂_map_right_iff.mp h).imp fun classHash pair hpair => hpair
  · intro hpairs
    induction hpairs generalizing results with
    | nil => rw [List.forall₂_nil_left_iff.mp h, List.map_nil]
    | cons hpair _ ih =>
        obtain ⟨result, results', hresult, h', rfl⟩ := List.forall₂_cons_left_iff.mp h
        have hok : result = .ok _ := orErr_eq_ok.mp (hresult.symm.trans hpair)
        rw [List.map_cons, ← ih h', hok]

/-- The classes are collected exactly when all of them were fetched. -/
theorem collectClasses_eq_ok {results : List (FetchResult b)}
    (h : List.Forall₂ (Fetched k) executedClassHashes results) {classes : ClassesInput b} :
    collectClasses executedClassHashes results = .ok classes ↔
      ∃ pairs, List.Forall₂ (fun classHash pair => fetchClass k classHash = .ok pair)
          executedClassHashes pairs ∧
        classes = ⟨.ofList pairs, .ofList (executedClassHashes.zip (pairs.map Prod.fst))⟩ := by
  obtain ⟨hfst, hsnd⟩ := map_zip_of_forall₂ h
  rw [collectClasses, collectClass_foldlM_eq_ok, hfst, hsnd]
  exact exists_congr fun pairs => and_congr_left fun _ => results_eq_map_ok_iff h

/-- The maps hold what was fetched for the executed class hashes, and nothing else. -/
structure Paired (k : ClassCrates b) (executedClassHashes : List ClassHash)
    (classes : ClassesInput b) : Prop where
  get_iff : ∀ classHash compiledClassHash,
    classes.classHashToCompiledClassHash.get classHash = some compiledClassHash ↔
      classHash ∈ executedClassHashes ∧
        ∃ casm, fetchClass k classHash = .ok (compiledClassHash, casm)
  mem_domain_iff : ∀ classHash,
    classHash ∈ classes.classHashToCompiledClassHash.keys ↔ classHash ∈ executedClassHashes
  mem_compiled_iff : ∀ compiledClassHash,
    compiledClassHash ∈ classes.compiledClasses.keys ↔
      ∃ classHash, classes.classHashToCompiledClassHash.get classHash = some compiledClassHash
  casm : ∀ compiledClassHash casm,
    classes.compiledClasses.get compiledClassHash = some casm →
      ∃ classHash ∈ executedClassHashes,
        fetchClass k classHash = .ok (compiledClassHash, casm)

/-- Collected classes pair what was fetched together. -/
theorem paired_of_forall₂ (hnd : executedClassHashes.Nodup)
    {pairs : List (CompiledClassHash × b.CasmContractClass)}
    (h : List.Forall₂ (fun classHash pair => fetchClass k classHash = .ok pair)
      executedClassHashes pairs) :
    Paired k executedClassHashes
      ⟨.ofList pairs, .ofList (executedClassHashes.zip (pairs.map Prod.fst))⟩ := by
  have hlen : executedClassHashes.length = (pairs.map Prod.fst).length := by
    rw [List.length_map, h.length_eq]
  have hkeys : (executedClassHashes.zip (pairs.map Prod.fst)).map Prod.fst
      = executedClassHashes := List.map_fst_zip hlen.le
  have hget : ∀ classHash compiledClassHash,
      (IndexMap.ofList (executedClassHashes.zip (pairs.map Prod.fst))).get classHash
          = some compiledClassHash ↔
        classHash ∈ executedClassHashes ∧
          ∃ casm, fetchClass k classHash = .ok (compiledClassHash, casm) := by
    intro classHash compiledClassHash
    rw [IndexMap.get_ofList_iff (by rw [hkeys]; exact hnd), List.zip_map_right, List.mem_map]
    constructor
    · rintro ⟨⟨classHash', pair⟩, hmem, heq⟩
      obtain ⟨rfl, rfl⟩ := Prod.mk.inj heq
      exact ⟨(List.of_mem_zip hmem).1, pair.2, List.forall₂_zip h hmem⟩
    · rintro ⟨hmem, casm, hfetch⟩
      -- the pair at the place of the class hash is what was fetched for it
      obtain ⟨i, hi⟩ := List.mem_iff_getElem?.mp hmem
      obtain ⟨hlt, hci⟩ := List.getElem?_eq_some_iff.mp hi
      have hlt' : i < pairs.length := h.length_eq ▸ hlt
      have hpair : fetchClass k executedClassHashes[i] = .ok pairs[i] := h.get hlt hlt'
      rw [hci, hfetch] at hpair
      refine ⟨(classHash, pairs[i]), ?_, ?_⟩
      · refine List.mem_iff_getElem?.mpr ⟨i, ?_⟩
        rw [List.getElem?_zip_eq_some]
        exact ⟨hi, List.getElem?_eq_getElem hlt'⟩
      · rw [← Except.ok.inj hpair]
        rfl
  refine ⟨hget, fun classHash => ?_, fun compiledClassHash => ?_,
    fun compiledClassHash casm hc => ?_⟩
  · rw [IndexMap.mem_keys_ofList, hkeys]
  · rw [IndexMap.mem_keys_ofList]
    constructor
    · intro hmem
      obtain ⟨pair, hpair, rfl⟩ := List.mem_map.mp hmem
      obtain ⟨classHash, hh, hfetch⟩ := exists_left_of_forall₂ h hpair
      exact ⟨classHash, (hget _ _).mpr ⟨hh, pair.2, hfetch⟩⟩
    · rintro ⟨classHash, hh⟩
      obtain ⟨hmem, casm, hfetch⟩ := (hget _ _).mp hh
      obtain ⟨pair, hpair, hfetch'⟩ := exists_right_of_forall₂ h hmem
      obtain rfl := Except.ok.inj (hfetch'.symm.trans hfetch)
      exact List.mem_map.mpr ⟨_, hpair, rfl⟩
  · exact exists_left_of_forall₂ h (IndexMap.mem_of_get_ofList hc)

/-! ### All orders of the tasks -/

/-- Every task has joined, and every class was fetched. -/
def AllFetched (k : ClassCrates b) (executedClassHashes : List ClassHash)
    (s : Joining String (FetchResult b)) : Prop :=
  ∀ (i : ℕ) classHash, executedClassHashes[i]? = some classHash →
    (∃ result : FetchResult b, s.ended[i]? = some (some (.ok result))) ∧
      ∃ pair, fetchClass k classHash = .ok pair

/-- **The classes are complete and paired**, in every order in which the tasks end. -/
theorem getClasses_complete (k : ClassCrates b) {executedClassHashes : List ClassHash}
    (hnd : executedClassHashes.Nodup) {events : List (JoinEvent (Option String))}
    {s : Joining String (FetchResult b)}
    (hrun : Run (fetchStep k executedClassHashes) (spawned executedClassHashes) events s) :
    ((∀ o ∈ s.ended, o ≠ none) → s.result = none →
        ∃ event s', fetchStep k executedClassHashes s event = some s' ∧ s'.result ≠ none) ∧
      ∀ joined, s.result = some joined →
        ((∃ classes, getClasses executedClassHashes joined = .ok classes) ↔
          AllFetched k executedClassHashes s) ∧
        ∀ classes, getClasses executedClassHashes joined = .ok classes →
          Paired k executedClassHashes classes ∧
            ∀ classHash ∈ executedClassHashes, ∀ v0,
              k.getCompiledClass classHash ≠ .ok (.v0 v0) := by
  have hs : Joined (taskOutcome k executedClassHashes) executedClassHashes.length s := hrun.joined
  refine ⟨joining_progress _, fun joined hr => ?_⟩
  cases joined with
  | error e =>
      refine ⟨⟨?_, fun hall => ?_⟩, fun classes h => ?_⟩
      · rintro ⟨classes, h⟩
        cases h
      · obtain ⟨i, hi⟩ := hs.error e hr
        have hlt : i < executedClassHashes.length :=
          hs.length ▸ (List.getElem?_eq_some_iff.mp hi).1
        obtain ⟨⟨result, hok⟩, -⟩ := hall i _ (List.getElem?_eq_getElem hlt)
        rw [hok] at hi
        cases hi
      · cases h
  | ok results =>
      have hf := fetched_of_joined hs hr
      have hcollect : ∀ classes, getClasses executedClassHashes (.ok results) = .ok classes ↔ _ :=
        fun classes => collectClasses_eq_ok hf
      refine ⟨⟨?_, fun hall => ?_⟩, fun classes h => ?_⟩
      · rintro ⟨classes, h⟩ i classHash hi
        obtain ⟨pairs, hpairs, -⟩ := (hcollect classes).mp h
        obtain ⟨hlt, -⟩ := List.getElem?_eq_some_iff.mp hi
        have hlt' : i < results.length := hf.length_eq ▸ hlt
        obtain ⟨pair, -, hfetch⟩ := exists_right_of_forall₂ hpairs (List.mem_of_getElem? hi)
        refine ⟨⟨results[i], ?_⟩, pair, hfetch⟩
        rw [hs.values results hr, List.getElem?_map, List.getElem?_eq_getElem hlt']
        rfl
      · obtain ⟨pairs, hpairs⟩ := exists_forall₂ fun classHash hmem =>
          have ⟨i, hi⟩ := List.mem_iff_getElem?.mp hmem
          (hall i classHash hi).2
        exact ⟨_, (hcollect _).mpr ⟨pairs, hpairs, rfl⟩⟩
      · obtain ⟨pairs, hpairs, rfl⟩ := (hcollect classes).mp h
        refine ⟨paired_of_forall₂ hnd hpairs, fun classHash hmem v0 => ?_⟩
        obtain ⟨pair, -, hfetch⟩ := exists_right_of_forall₂ hpairs hmem
        exact not_deprecated_of_fetchClass k hfetch v0

end Fetching

/-! ### Two classes with one compiled class hash -/

/-- A blockifier whose CASM classes are their fields. -/
def casmBlockifier : Blockifier :=
  { roomyBlockifier with CasmContractClass := CasmFields Unit Unit Unit }

/-- The classes `11` and `12` compile to one class, and `13` to another. -/
def sharedCrates : ClassCrates casmBlockifier where
  CompiledClassV0 := Empty
  CompiledClassV1 := Felt
  NativeCompiledClassV1 := Empty
  SegmentLengths := Unit
  Hints := Unit
  EntryPoints := Unit
  getCompiledClass classHash := .ok (.v1 (if classHash = 13 then 6 else 5))
  getCompiledClassHashV2 classHash _ := .ok (if classHash = 13 then 6 else 5)
  casm := Empty.elim
  iterData compiledClass := [.int compiledClass]
  bytecodeSegmentFeltSizes _ := ()
  programHintsToCasmHints _ := .ok ()
  entryPointsByType _ := ()
  casmContractClass fields := fields
  cairoNative := false
  panicText msg := msg

/-- The last task ends first, and the first task last. -/
def lastFirst : List (JoinEvent (Option String)) :=
  [.ends 2 none, .ends 1 none, .ends 0 none, .returnsValues]

/-- The classes of a set whose tasks end in the reverse order. -/
theorem getClasses_complete_sharedCrates :
    ∃ s joined classes,
      Run (fetchStep sharedCrates [11, 12, 13]) (spawned [11, 12, 13]) lastFirst s ∧
      s.result = some joined ∧ getClasses [11, 12, 13] joined = .ok classes ∧
      Paired sharedCrates [11, 12, 13] classes := by
  have hrun : ∃ s, runEvents (fetchStep sharedCrates [11, 12, 13]) (spawned [11, 12, 13]) lastFirst
      = some s := ⟨_, rfl⟩
  obtain ⟨s, hs⟩ := hrun
  have hnd : ([11, 12, 13] : List ClassHash).Nodup := by decide +kernel
  obtain ⟨-, hall⟩ := getClasses_complete sharedCrates hnd (Run.of_runEvents hs)
  have hres : ∃ joined classes, s.result = some joined ∧
      getClasses [11, 12, 13] joined = .ok classes := by
    obtain rfl := Option.some.inj hs
    exact ⟨_, _, rfl, rfl⟩
  obtain ⟨joined, classes, hr, hc⟩ := hres
  exact ⟨s, joined, classes, Run.of_runEvents hs, hr, hc, ((hall joined hr).2 classes hc).1⟩

end Snip36.Running
