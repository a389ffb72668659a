import Snip36.StorageProofs.Provider
import Snip36.Support.Hex

/-!
# Storage proofs — replaying a run

An execution's classes are a hash set and its storage reads a hash map, so two runs may go through
them in two orders.  Recorded requests are found again by their normalised parameters: all arrays
are sorted (`normalizeJson`), so the order inside a request does not matter.  Which keys go into
which request does, and a large query is cut into requests in the order of the run.

`reproducible_iff`: the requests of an execution are the same in every order exactly when there are
no more than 100 classes and the keys of every contract go into one request.
-/

namespace Snip36.StorageProofs
open Support Running

/-! ### Normalised requests -/

mutual

/-- `normalize_json`. -/
def normalizeJson : Json → Json
  | .arr elems => .arr ((normalizeElems elems).insertionSort fun v w => v.compact ≤ w.compact)
  | .obj fields => .obj (normalizeFields fields)
  | other => other

/-- `arr.iter().map(normalize_json)`. -/
def normalizeElems : List Json → List Json
  | [] => []
  | v :: vs => normalizeJson v :: normalizeElems vs

/-- `obj.iter().map(|(k, v)| (k.clone(), normalize_json(v)))`. -/
def normalizeFields : List (String × Json) → List (String × Json)
  | [] => []
  | (k, v) :: fields => (k, normalizeJson v) :: normalizeFields fields

end

/-- A felt in a request. -/
def feltJson (f : Felt) : Json := .str (hexOf f.val)

/-- A block id in a request. -/
def ConfirmedBlockId.json : ConfirmedBlockId → Json
  | .hash h => .obj [("block_hash", feltJson h)]
  | .number n => .obj [("block_number", .num n)]
  | .latest => .str "latest"
  | .l1Accepted => .str "l1_accepted"

/-- A contract and its keys in a request. -/
def ContractStorageKeys.json (csk : ContractStorageKeys) : Json :=
  .obj [("contract_address", feltJson csk.contractAddress),
    ("storage_keys", .arr (csk.storageKeys.map feltJson))]

/-- The two ways of a JSON-RPC client to pass parameters. -/
inductive ParamsForm where
  | byPosition
  | byName

/-- The `params` of a `starknet_getStorageProof` request. -/
def StorageProofRequest.params (request : StorageProofRequest) : ParamsForm → Json
  | .byPosition => .arr [
      request.blockId.json,
      .arr (request.classHashes.map feltJson),
      .arr (request.contractAddresses.map feltJson),
      .arr (request.contractStorageKeys.map (·.json))]
  | .byName => .obj [
      ("block_id", request.blockId.json),
      ("class_hashes", .arr (request.classHashes.map feltJson)),
      ("contract_addresses", .arr (request.contractAddresses.map feltJson)),
      ("contracts_storage_keys", .arr (request.contractStorageKeys.map (·.json)))]

/-- What a request is recorded under, and looked up by. -/
def StorageProofRequest.sortedParams (form : ParamsForm) (request : StorageProofRequest) : Json :=
  normalizeJson (request.params form)

/-! ### Two orders -/

section Orders

variable {Output Message BaseBlockInfo : Type}

/-- The same data, whose executed classes and storage reads are iterated in another order. -/
structure Reorders
    (executionData executionData' : VirtualBlockExecutionData Output Message BaseBlockInfo) :
    Prop where
  executedClassHashes : executionData'.executedClassHashes.Perm executionData.executedClassHashes
  storage : executionData'.initialReads.storage.entries.Perm
    executionData.initialReads.storage.entries
  initialReads : executionData'.initialReads =
    { executionData.initialReads with storage := executionData'.initialReads.storage }
  executionOutputs : executionData'.executionOutputs = executionData.executionOutputs
  stateDiff : executionData'.stateDiff = executionData.stateDiff
  l2ToL1Messages : executionData'.l2ToL1Messages = executionData.l2ToL1Messages
  baseBlockInfo : executionData'.baseBlockInfo = executionData.baseBlockInfo

/-- In every order, the proofs are fetched with the same requests, once they are normalised. -/
def Reproducible (form : ParamsForm) (cache : StateCache) (blockNumber : ℕ)
    (executionData : VirtualBlockExecutionData Output Message BaseBlockInfo) : Prop :=
  ∀ executionData' node node' proof proof' exchanges exchanges',
    Reorders executionData executionData' →
    fetchProofs node blockNumber (prepareQuery cache executionData) [] = .ok (proof, exchanges) →
    fetchProofs node' blockNumber (prepareQuery cache executionData') []
      = .ok (proof', exchanges') →
    (exchanges'.map fun exchange => exchange.1.sortedParams form).Perm
      (exchanges.map fun exchange => exchange.1.sortedParams form)

/-- There are no more classes than go into one request, and the keys of every contract go into
one. -/
def Uncut (cache : StateCache)
    (executionData : VirtualBlockExecutionData Output Message BaseBlockInfo) : Prop :=
  let initialReads := executionData.initialReads
  let contractAddresses := (cache.getContractAddresses initialReads).insertionSort (· ≤ ·)
  executionData.executedClassHashes.length ≤ maxKeysPerRequest ∧
    AllInOneChunk maxKeysPerRequest
      (executionData.executedClassHashes.length + contractAddresses.length)
      (contractAddresses.map fun address => (storageByAddress initialReads address).length)

end Orders

/-! ### What is normalised away -/

theorem normalizeElems_eq (vs : List Json) : normalizeElems vs = vs.map normalizeJson := by
  induction vs with
  | nil => rfl
  | cons v vs ih => rw [normalizeElems, ih, List.map_cons]

/-- Normalised arrays have the same normalised elements. -/
theorem perm_of_normalizeJson_arr {vs ws : List Json}
    (h : normalizeJson (.arr vs) = normalizeJson (.arr ws)) :
    (vs.map normalizeJson).Perm (ws.map normalizeJson) := by
  rw [normalizeJson, normalizeJson, normalizeElems_eq, normalizeElems_eq] at h
  have hws := List.perm_insertionSort (fun v w => v.compact ≤ w.compact) (ws.map normalizeJson)
  rw [← Json.arr.inj h] at hws
  exact (List.perm_insertionSort _ _).symm.trans hws

theorem normalizeJson_arr_eq_nil {vs : List Json} :
    normalizeJson (.arr vs) = .arr [] ↔ vs = [] := by
  constructor
  · intro h
    have hsame : normalizeJson (.arr vs) = normalizeJson (.arr []) := h
    have hperm := perm_of_normalizeJson_arr hsame
    exact List.map_eq_nil_iff.mp hperm.eq_nil
  · rintro rfl
    rfl

theorem feltJson_injective : Function.Injective feltJson :=
  fun _ _ h => Fin.ext (hexOf_injective (Json.str.inj h))

/-- The characters of a hexadecimal text stand for themselves in a JSON string. -/
theorem quoted_hexOf (n : ℕ) :
    quoted (hexOf n) = String.ofList ('"' :: (hexOf n).toList ++ ['"']) := by
  have hdigit : ∀ c ∈ Nat.toDigits 16 n, escapeChar c = [c] :=
    forall_mem_toDigits (by decide +kernel) n
  have hmark : ∀ c ∈ ['0', 'x'], escapeChar c = [c] := by
    intro c hc
    rcases List.mem_pair.mp hc with rfl | rfl
    · rfl
    · rfl
  have hself : ∀ c ∈ (hexOf n).toList, escapeChar c = [c] := by
    rw [hexOf, String.toList_ofList]
    change ∀ c ∈ ['0', 'x'] ++ Nat.toDigits 16 n, escapeChar c = [c]
    exact List.forall_mem_append.mpr ⟨hmark, hdigit⟩
  rw [quoted, List.flatMap_congr hself, List.flatMap_singleton']

/-- The text of a felt in a request tells the felt. -/
theorem feltJson_compact_injective {f g : Felt}
    (h : (feltJson f).compact = (feltJson g).compact) : f = g := by
  rw [feltJson, feltJson, Json.compact, Json.compact, quoted_hexOf, quoted_hexOf] at h
  have hlist := List.append_cancel_right (List.cons_injective (String.ofList_injective h))
  exact Fin.ext (hexOf_injective (String.toList_injective hlist))

theorem map_normalizeJson_felts (fs : List Felt) :
    (fs.map feltJson).map normalizeJson = fs.map feltJson := by
  rw [List.map_map]
  rfl

/-- An array is sorted by the texts of its elements. -/
theorem pairwise_insertionSort_compact (vs : List Json) :
    (vs.insertionSort fun v w => v.compact ≤ w.compact).Pairwise
      fun v w => v.compact ≤ w.compact := by
  have : Std.Total fun v w : Json => v.compact ≤ w.compact := ⟨fun v w => le_total _ _⟩
  have : IsTrans Json fun v w => v.compact ≤ w.compact := ⟨fun u v w => le_trans⟩
  exact List.pairwise_insertionSort _ vs

/-- **The order of felts in an array is normalised away.** -/
theorem normalizeJson_felts_perm {fs gs : List Felt} (h : fs.Perm gs) :
    normalizeJson (.arr (fs.map feltJson)) = normalizeJson (.arr (gs.map feltJson)) := by
  rw [normalizeJson, normalizeJson, normalizeElems_eq, normalizeElems_eq, map_normalizeJson_felts,
    map_normalizeJson_felts]
  refine congrArg Json.arr (List.Perm.eq_of_pairwise ?_ (pairwise_insertionSort_compact _)
    (pairwise_insertionSort_compact _) ?_)
  · intro v w hv hw hle hge
    obtain ⟨f, -, rfl⟩ := List.mem_map.mp ((List.mem_insertionSort _).mp hv)
    obtain ⟨g, -, rfl⟩ := List.mem_map.mp ((List.mem_insertionSort _).mp hw)
    rw [feltJson_compact_injective (le_antisymm hle hge)]
  · calc (fs.map feltJson).insertionSort _ |>.Perm (fs.map feltJson) := List.perm_insertionSort _ _
      _ |>.Perm (gs.map feltJson) := h.map feltJson
      _ |>.Perm ((gs.map feltJson).insertionSort _) := (List.perm_insertionSort _ _).symm

/-- Nothing but the order of felts is. -/
theorem perm_of_normalizeJson_felts {fs gs : List Felt}
    (h : normalizeJson (.arr (fs.map feltJson)) = normalizeJson (.arr (gs.map feltJson))) :
    fs.Perm gs := by
  have hperm := perm_of_normalizeJson_arr h
  rw [map_normalizeJson_felts, map_normalizeJson_felts] at hperm
  exact (List.map_perm_map_iff feltJson_injective).mp hperm

/-! ### What is left of a query -/

/-- The keys of a query, without the order of the class hashes and of the keys of a contract. -/
structure QueryBags where
  classHashes : Multiset Felt
  contractAddresses : List ContractAddress
  contractStorageKeys : List (Felt × Multiset Felt)

/-- A contract and its keys, without their order. -/
def ContractStorageKeys.bag (csk : ContractStorageKeys) : Felt × Multiset Felt :=
  (csk.contractAddress, csk.storageKeys)

/-- The bags of a query. -/
def RpcStorageProofsQuery.bags (query : RpcStorageProofsQuery) : QueryBags where
  classHashes := query.classHashes
  contractAddresses := query.contractAddresses
  contractStorageKeys := query.contractStorageKeys.map (·.bag)

theorem ContractStorageKeys.normalizeJson_json {csk csk' : ContractStorageKeys}
    (h : csk.bag = csk'.bag) : normalizeJson csk.json = normalizeJson csk'.json := by
  obtain ⟨haddress, hkeys⟩ := Prod.mk.inj h
  have hkeys' := normalizeJson_felts_perm (Multiset.coe_eq_coe.mp hkeys)
  simp only [ContractStorageKeys.json, normalizeJson, normalizeFields, haddress] at hkeys' ⊢
  rw [hkeys']

/-- **A normalised request depends on the bags alone.** -/
theorem sortedParams_of_bags {query query' : RpcStorageProofsQuery} (form : ParamsForm)
    (blockNumber : ℕ) (h : query.bags = query'.bags) :
    (proofRequest blockNumber query).sortedParams form
      = (proofRequest blockNumber query').sortedParams form := by
  obtain ⟨hclasses, haddresses, hkeys⟩ := QueryBags.mk.inj h
  have hclasses' := normalizeJson_felts_perm (Multiset.coe_eq_coe.mp hclasses)
  have hentries : (query.contractStorageKeys.map (·.json)).map normalizeJson
      = (query'.contractStorageKeys.map (·.json)).map normalizeJson := by
    rw [List.map_map, List.map_map]
    have hforall : List.Forall₂ (fun csk csk' : ContractStorageKeys => csk.bag = csk'.bag)
        query.contractStorageKeys query'.contractStorageKeys := by
      rw [← List.forall₂_eq_eq_eq] at hkeys
      exact List.forall₂_map_right_iff.mp (List.forall₂_map_left_iff.mp hkeys)
    have hjson : List.Forall₂ (· = ·) (query.contractStorageKeys.map (normalizeJson ∘ (·.json)))
        (query'.contractStorageKeys.map (normalizeJson ∘ (·.json))) :=
      List.forall₂_map_left_iff.mpr (List.forall₂_map_right_iff.mpr
        (hforall.imp fun _ _ => ContractStorageKeys.normalizeJson_json))
    exact List.forall₂_eq_eq_eq ▸ hjson
  have hentries' : normalizeJson (.arr (query.contractStorageKeys.map (·.json)))
      = normalizeJson (.arr (query'.contractStorageKeys.map (·.json))) := by
    rw [normalizeJson, normalizeJson, normalizeElems_eq, normalizeElems_eq, hentries]
  cases form with
  | byPosition =>
      simp only [StorageProofRequest.sortedParams, StorageProofRequest.params, proofRequest]
      rw [normalizeJson, normalizeJson]
      simp only [normalizeElems, haddresses, hclasses', hentries']
  | byName =>
      simp only [StorageProofRequest.sortedParams, StorageProofRequest.params, proofRequest]
      rw [normalizeJson, normalizeJson]
      simp only [normalizeFields, haddresses, hclasses', hentries']

/-! ### Shuffled items -/

/-- Lists of items that differ in the order of neighbouring class hashes, and of neighbouring keys
of a contract. -/
inductive Shuffled : List QueryItem → List QueryItem → Prop where
  | nil : Shuffled [] []
  | cons (item : QueryItem) {items items' : List QueryItem} (h : Shuffled items items') :
      Shuffled (item :: items) (item :: items')
  | classHashes (h h' : Felt) (items : List QueryItem) :
      Shuffled (.classHash h :: .classHash h' :: items) (.classHash h' :: .classHash h :: items)
  | storageKeys (a k k' : Felt) (items : List QueryItem) :
      Shuffled (.storageKey a k :: .storageKey a k' :: items)
        (.storageKey a k' :: .storageKey a k :: items)
  | trans {items items' items'' : List QueryItem} (h : Shuffled items items')
      (h' : Shuffled items' items'') : Shuffled items items''

namespace Shuffled

theorem refl : ∀ items : List QueryItem, Shuffled items items
  | [] => .nil
  | item :: items => .cons item (refl items)

theorem append_left (items : List QueryItem) {items₁ items₂ : List QueryItem}
    (h : Shuffled items₁ items₂) : Shuffled (items ++ items₁) (items ++ items₂) := by
  induction items with
  | nil => exact h
  | cons item items ih => exact .cons item ih

theorem append_right {items₁ items₂ : List QueryItem} (h : Shuffled items₁ items₂)
    (items : List QueryItem) : Shuffled (items₁ ++ items) (items₂ ++ items) := by
  induction h with
  | nil => exact refl items
  | cons item _ ih => exact .cons item ih
  | classHashes h h' items' => exact .classHashes h h' (items' ++ items)
  | storageKeys a k k' items' => exact .storageKeys a k k' (items' ++ items)
  | trans _ _ ih ih' => exact .trans ih ih'

theorem append {items₁ items₂ items₁' items₂' : List QueryItem} (h : Shuffled items₁ items₂)
    (h' : Shuffled items₁' items₂') : Shuffled (items₁ ++ items₁') (items₂ ++ items₂') :=
  (h.append_right items₁').trans (h'.append_left items₂)

theorem perm {items items' : List QueryItem} (h : Shuffled items items') :
    items.Perm items' := by
  induction h with
  | nil => exact .nil
  | cons item _ ih => exact ih.cons item
  | classHashes h h' items => exact .swap _ _ items
  | storageKeys a k k' items => exact .swap _ _ items
  | trans _ _ ih ih' => exact ih.trans ih'

theorem of_classHashes {hs hs' : List Felt} (h : hs.Perm hs') :
    Shuffled (hs.map .classHash) (hs'.map .classHash) := by
  induction h with
  | nil => exact .nil
  | cons h _ ih => exact .cons _ ih
  | swap h h' hs => exact .classHashes h' h _
  | trans _ _ ih ih' => exact .trans ih ih'

theorem of_storageKeys (a : Felt) {ks ks' : List Felt} (h : ks.Perm ks') :
    Shuffled (ks.map (.storageKey a)) (ks'.map (.storageKey a)) := by
  induction h with
  | nil => exact .nil
  | cons k _ ih => exact .cons _ ih
  | swap k k' ks => exact .storageKeys a k' k _
  | trans _ _ ih ih' => exact .trans ih ih'

end Shuffled

/-- `pushStorageKey`, on bags. -/
def pushBag (entries : List (Felt × Multiset Felt)) (a k : Felt) : List (Felt × Multiset Felt) :=
  match entries.getLast? with
  | some last =>
      if last.1 = a then entries.dropLast ++ [(a, k ::ₘ last.2)] else entries ++ [(a, {k})]
  | none => entries ++ [(a, {k})]

/-- `collectItem`, on bags. -/
def collectBag (bags : QueryBags) : QueryItem → QueryBags
  | .classHash h => { bags with classHashes := h ::ₘ bags.classHashes }
  | .contractAddress a => { bags with contractAddresses := bags.contractAddresses ++ [a] }
  | .storageKey a k => { bags with contractStorageKeys := pushBag bags.contractStorageKeys a k }

theorem coe_concat (ks : List Felt) (k : Felt) :
    ((ks ++ [k] : List Felt) : Multiset Felt) = k ::ₘ (ks : Multiset Felt) :=
  Multiset.coe_eq_coe.mpr (List.perm_append_singleton k ks)

theorem map_bag_pushStorageKey (entries : List ContractStorageKeys) (a k : Felt) :
    (pushStorageKey entries a k).map (·.bag) = pushBag (entries.map (·.bag)) a k := by
  rcases List.eq_nil_or_concat entries with rfl | ⟨es, last, rfl⟩
  · rfl
  · by_cases h : last.contractAddress = a
    · simp [pushStorageKey, pushBag, h, ContractStorageKeys.bag, coe_concat]
    · simp [pushStorageKey, pushBag, h, ContractStorageKeys.bag]

/-- Two keys of a contract come in either order. -/
theorem pushBag_comm (entries : List (Felt × Multiset Felt)) (a k k' : Felt) :
    pushBag (pushBag entries a k) a k' = pushBag (pushBag entries a k') a k := by
  have hpair : k ::ₘ {k'} = k' ::ₘ ({k} : Multiset Felt) := Multiset.cons_swap k k' 0
  rcases List.eq_nil_or_concat entries with rfl | ⟨es, last, rfl⟩
  · simp [pushBag, hpair]
  · by_cases h : last.1 = a
    · simp [pushBag, h, Multiset.cons_swap k k']
    · simp [pushBag, h, hpair]

theorem bags_collectItem (query : RpcStorageProofsQuery) (item : QueryItem) :
    (collectItem query item).bags = collectBag query.bags item := by
  cases item with
  | classHash h => simp [collectItem, collectBag, RpcStorageProofsQuery.bags, coe_concat]
  | contractAddress a => simp [collectItem, collectBag, RpcStorageProofsQuery.bags]
  | storageKey a k =>
      simp [collectItem, collectBag, RpcStorageProofsQuery.bags, map_bag_pushStorageKey]

theorem bags_foldl_collectItem (items : List QueryItem) (query : RpcStorageProofsQuery) :
    (items.foldl collectItem query).bags = items.foldl collectBag query.bags := by
  induction items generalizing query with
  | nil => rfl
  | cons item items ih => rw [List.foldl_cons, ih, bags_collectItem, List.foldl_cons]

/-- **Shuffled items are collected into the same bags.** -/
theorem Shuffled.bags_collectQuery {items items' : List QueryItem} (h : Shuffled items items') :
    (collectQuery items).bags = (collectQuery items').bags := by
  rw [collectQuery, collectQuery, bags_foldl_collectItem, bags_foldl_collectItem]
  generalize RpcStorageProofsQuery.empty.bags = bags
  induction h generalizing bags with
  | nil => rfl
  | cons item _ ih => exact ih (collectBag bags item)
  | classHashes h h' items =>
      simp only [List.foldl_cons, collectBag, Multiset.cons_swap h h']
  | storageKeys a k k' items =>
      simp only [List.foldl_cons, collectBag, pushBag_comm _ a k k']
  | trans _ _ ih ih' => exact (ih bags).trans (ih' bags)

/-! ### Blocks -/

/-- The items of a query, in blocks: the class hashes, every contract address, and the keys of
every contract. -/
def queryBlocks (query : RpcStorageProofsQuery) : List (List QueryItem) :=
  query.classHashes.map .classHash
    :: (query.contractAddresses.map fun a => [.contractAddress a])
      ++ query.contractStorageKeys.map fun contract =>
        contract.storageKeys.map (.storageKey contract.contractAddress)

theorem flatten_queryBlocks (query : RpcStorageProofsQuery) :
    (queryBlocks query).flatten = flattenQuery query := by
  simp only [queryBlocks, flattenQuery, List.cons_append, List.flatten_cons, List.flatten_append,
    List.append_assoc, List.flatMap_def]
  congr 2
  induction query.contractAddresses with
  | nil => rfl
  | cons a as ih => rw [List.map_cons, List.flatten_cons, ih, List.map_cons, List.singleton_append]

section Orders

variable {Output Message BaseBlockInfo : Type} {cache : StateCache}
  {executionData executionData' : VirtualBlockExecutionData Output Message BaseBlockInfo}

/-- Blocks that lie in one chunk each, some after others. -/
theorem allInOneChunk_append {n start : ℕ} {lens lens' : List ℕ} :
    AllInOneChunk n start (lens ++ lens') ↔
      AllInOneChunk n start lens ∧ AllInOneChunk n (start + lens.sum) lens' := by
  induction lens generalizing start with
  | nil => simp [AllInOneChunk]
  | cons len lens ih =>
      simp only [List.cons_append, AllInOneChunk, ih, List.sum_cons, Nat.add_assoc, and_assoc]

theorem allInOneChunk_ones (n start : ℕ) {α : Type} (as : List α) :
    AllInOneChunk n start (as.map fun _ => 1) := by
  induction as generalizing start with
  | nil => trivial
  | cons a as ih => exact ⟨inOneChunk_one n start, ih (start + 1)⟩

theorem uncut_iff : Uncut cache executionData ↔
    AllInOneChunk maxKeysPerRequest 0
      ((queryBlocks (prepareQuery cache executionData)).map List.length) := by
  have hfirst : InOneChunk maxKeysPerRequest 0 executionData.executedClassHashes.length ↔
      executionData.executedClassHashes.length ≤ maxKeysPerRequest := by
    rw [InOneChunk, maxKeysPerRequest]
    omega
  have hones := allInOneChunk_ones maxKeysPerRequest
    (0 + (prepareQuery cache executionData).classHashes.length)
    (prepareQuery cache executionData).contractAddresses
  have hsum : ((prepareQuery cache executionData).contractAddresses.map fun _ => 1).sum
      = (prepareQuery cache executionData).contractAddresses.length := by simp
  simp only [queryBlocks, List.cons_append, List.map_cons, List.map_append, List.map_map,
    Function.comp_def, List.length_map, List.length_singleton, AllInOneChunk,
    allInOneChunk_append, hsum]
  rw [Uncut, and_iff_right hones]
  simp only [prepareQuery, List.map_map, Function.comp_def, hfirst, Nat.zero_add]

theorem storageByAddress_perm {initialReads initialReads' : StateMaps}
    (h : initialReads'.storage.entries.Perm initialReads.storage.entries)
    (address : ContractAddress) :
    (storageByAddress initialReads' address).Perm (storageByAddress initialReads address) :=
  ((h.map Prod.fst).filter _).map _

/-- The contract addresses are sorted. -/
theorem Reorders.contractAddresses (h : Reorders executionData executionData') :
    (prepareQuery cache executionData').contractAddresses
      = (prepareQuery cache executionData).contractAddresses := by
  have hmem : ∀ a, a ∈ cache.getContractAddresses executionData'.initialReads ↔
      a ∈ cache.getContractAddresses executionData.initialReads := by
    intro a
    have hkeys : ∀ k, (a, k) ∈ executionData'.initialReads.storage.keys ↔
        (a, k) ∈ executionData.initialReads.storage.keys :=
      fun k => (h.storage.map Prod.fst).mem_iff
    rw [cache.mem_getContractAddresses, cache.mem_getContractAddresses, StateMaps.Touches,
      StateMaps.Touches, exists_congr hkeys, h.initialReads]
  have hperm : (cache.getContractAddresses executionData'.initialReads).Perm
      (cache.getContractAddresses executionData.initialReads) :=
    (List.perm_ext_iff_of_nodup (cache.nodup_getContractAddresses _)
      (cache.nodup_getContractAddresses _)).mpr hmem
  refine List.Perm.eq_of_pairwise' (List.pairwise_insertionSort (· ≤ ·) _)
    (List.pairwise_insertionSort (· ≤ ·) _) ?_
  exact (List.perm_insertionSort _ _).trans (hperm.trans (List.perm_insertionSort _ _).symm)

/-- Another order leaves the bags alone. -/
theorem Reorders.bags (h : Reorders executionData executionData') :
    (prepareQuery cache executionData').bags = (prepareQuery cache executionData).bags := by
  have haddresses : (prepareQuery cache executionData').contractAddresses
      = (prepareQuery cache executionData).contractAddresses := h.contractAddresses
  have hkeys : (prepareQuery cache executionData').contractStorageKeys.map (·.bag)
      = (prepareQuery cache executionData).contractStorageKeys.map (·.bag) := by
    change ((prepareQuery cache executionData').contractAddresses.map _).map _
      = ((prepareQuery cache executionData).contractAddresses.map _).map _
    rw [haddresses, List.map_map, List.map_map]
    refine List.map_congr_left fun address _ => ?_
    exact congrArg (Prod.mk address.key)
      (Multiset.coe_eq_coe.mpr (storageByAddress_perm h.storage address))
  have hclasses : ((prepareQuery cache executionData').classHashes : Multiset Felt)
      = (prepareQuery cache executionData).classHashes :=
    Multiset.coe_eq_coe.mpr h.executedClassHashes
  rw [RpcStorageProofsQuery.bags, RpcStorageProofsQuery.bags, hclasses, haddresses, hkeys]

/-- The blocks of queries with the same bags are shuffled. -/
theorem shuffled_of_bags {query query' : RpcStorageProofsQuery} (h : query.bags = query'.bags) :
    List.Forall₂ Shuffled (queryBlocks query) (queryBlocks query') := by
  obtain ⟨hclasses, haddresses, hkeys⟩ := QueryBags.mk.inj h
  refine .cons (.of_classHashes (Multiset.coe_eq_coe.mp hclasses)) ?_
  refine List.rel_append ?_ ?_
  · rw [haddresses]
    exact List.forall₂_same.mpr fun block _ => .refl block
  · rw [← List.forall₂_eq_eq_eq] at hkeys
    have hbags := List.forall₂_map_right_iff.mp (List.forall₂_map_left_iff.mp hkeys)
    refine List.forall₂_map_left_iff.mpr (List.forall₂_map_right_iff.mpr (hbags.imp ?_))
    intro csk csk' hbag
    obtain ⟨haddress, hperm⟩ := Prod.mk.inj hbag
    rw [haddress]
    exact .of_storageKeys _ (Multiset.coe_eq_coe.mp hperm)

/-- The requests of a query, normalised. -/
def sortedRequests (form : ParamsForm) (blockNumber : ℕ) (query : RpcStorageProofsQuery) :
    List Json :=
  (sentRequests blockNumber query).map (·.sortedParams form)

theorem sortedRequests_eq (form : ParamsForm) (blockNumber : ℕ) {query : RpcStorageProofsQuery}
    (h : maxKeysPerRequest < countTotalKeys query) :
    sortedRequests form blockNumber query
      = (chunks maxKeysPerRequest (flattenQuery query)).map fun items =>
        (proofRequest blockNumber (collectQuery items)).sortedParams form := by
  rw [sortedRequests, sentRequests, sentQueries, if_neg (Nat.not_le.mpr h), chunkQueries,
    List.map_map, List.map_map]
  rfl

/-- **Queries with the same bags, which no request cuts, are sent in the same requests.** -/
theorem sortedRequests_of_bags (form : ParamsForm) (blockNumber : ℕ)
    {query query' : RpcStorageProofsQuery} (h : query.bags = query'.bags)
    (hone : AllInOneChunk maxKeysPerRequest 0 ((queryBlocks query).map List.length)) :
    sortedRequests form blockNumber query = sortedRequests form blockNumber query' := by
  have hshuffled := shuffled_of_bags h
  have hlen : ∀ items items', Shuffled items items' → items.length = items'.length :=
    fun _ _ hitems => hitems.perm.length_eq
  have htotal : countTotalKeys query = countTotalKeys query' := by
    rw [← length_flattenQuery, ← length_flattenQuery, ← flatten_queryBlocks, ← flatten_queryBlocks]
    exact length_flatten_of_forall₂ hlen hshuffled
  rcases Nat.lt_or_ge maxKeysPerRequest (countTotalKeys query) with hmany | hfew
  · rw [sortedRequests_eq form blockNumber hmany,
      sortedRequests_eq form blockNumber (htotal ▸ hmany), ← flatten_queryBlocks,
      ← flatten_queryBlocks]
    have hchunks := forall₂_chunks .nil (fun _ _ _ _ h h' => h.append h') hlen (by decide)
      (dvd_zero maxKeysPerRequest) hshuffled hone
    rw [← List.forall₂_eq_eq_eq]
    refine List.forall₂_map_left_iff.mpr (List.forall₂_map_right_iff.mpr (hchunks.imp ?_))
    exact fun items items' hitems => sortedParams_of_bags form blockNumber hitems.bags_collectQuery
  · rw [sortedRequests, sortedRequests, sentRequests, sentRequests, sentQueries, sentQueries,
      if_pos hfew, if_pos (htotal ▸ hfew)]
    exact congrArg (fun v => [v]) (sortedParams_of_bags form blockNumber h)

end Orders

/-! ### What is not normalised away -/

/-- The key pairs of an entry are told by its normalised text. -/
theorem ContractStorageKeys.pairs_of_normalizeJson {csk csk' : ContractStorageKeys}
    (h : normalizeJson csk.json = normalizeJson csk'.json) :
    (storagePairs [csk]).Perm (storagePairs [csk']) := by
  simp only [ContractStorageKeys.json, normalizeJson, normalizeFields, Json.obj.injEq,
    List.cons.injEq, Prod.mk.injEq, true_and, and_true] at h
  obtain ⟨haddress, hkeys⟩ := h
  have haddress' : csk.contractAddress = csk'.contractAddress := feltJson_injective haddress
  have hperm : csk.storageKeys.Perm csk'.storageKeys := perm_of_normalizeJson_felts hkeys
  rw [storagePairs, storagePairs, List.flatMap_singleton, List.flatMap_singleton, haddress']
  exact hperm.map _

/-- The key pairs of some entries, without their order. -/
theorem coe_storagePairs (entries : List ContractStorageKeys) :
    (storagePairs entries : Multiset (Felt × Felt))
      = (entries.map fun csk => (storagePairs [csk] : Multiset (Felt × Felt))).sum := by
  induction entries with
  | nil => rfl
  | cons csk entries ih =>
      rw [List.map_cons, List.sum_cons, ← ih, Multiset.coe_add, ← storagePairs_append,
        List.singleton_append]

/-- The key pairs of some entries are told by their normalised array. -/
theorem storagePairs_of_normalizeJson {entries entries' : List ContractStorageKeys}
    (h : normalizeJson (.arr (entries.map (·.json)))
      = normalizeJson (.arr (entries'.map (·.json)))) :
    (storagePairs entries).Perm (storagePairs entries') := by
  have hperm := perm_of_normalizeJson_arr h
  rw [List.map_map, List.map_map] at hperm
  have hfactors : (fun csk => (storagePairs [csk] : Multiset (Felt × Felt))).FactorsThrough
      (normalizeJson ∘ ContractStorageKeys.json) :=
    fun csk csk' hcsk => Multiset.coe_eq_coe.mpr (ContractStorageKeys.pairs_of_normalizeJson hcsk)
  obtain ⟨read, hread⟩ := (Function.factorsThrough_iff _).mp hfactors
  refine Multiset.coe_eq_coe.mp ?_
  have hsum := (hperm.map read).sum_eq
  rw [List.map_map, List.map_map] at hsum
  rw [coe_storagePairs, coe_storagePairs, hread]
  exact hsum

/-- The arrays of a normalised request: the class hashes, the contract addresses and the storage
entries of some items. -/
def sortedArrays (items : List QueryItem) : Json × Json × Json :=
  (normalizeJson (.arr ((collectQuery items).classHashes.map feltJson)),
    normalizeJson (.arr (((collectQuery items).contractAddresses.map (·.key)).map feltJson)),
    normalizeJson (.arr ((collectQuery items).contractStorageKeys.map (·.json))))

/-- A normalised request tells its arrays, but not which is which. -/
theorem perm_sortedArrays {form : ParamsForm} {blockNumber : ℕ} {items items' : List QueryItem}
    (h : (proofRequest blockNumber (collectQuery items)).sortedParams form
      = (proofRequest blockNumber (collectQuery items')).sortedParams form) :
    [(sortedArrays items).1, (sortedArrays items).2.1, (sortedArrays items).2.2].Perm
      [(sortedArrays items').1, (sortedArrays items').2.1, (sortedArrays items').2.2] := by
  cases form with
  | byPosition => exact (List.perm_cons _).mp (perm_of_normalizeJson_arr h)
  | byName =>
      simp only [StorageProofRequest.sortedParams, StorageProofRequest.params, proofRequest,
        normalizeJson, normalizeFields, Json.obj.injEq, List.cons.injEq, Prod.mk.injEq, true_and,
        and_true] at h
      obtain ⟨hclasses, haddresses, hkeys⟩ := h
      simp only [sortedArrays, normalizeJson, hclasses, haddresses, hkeys]
      exact .refl _

theorem eq_of_perm_three {α : Type} {a a' b' c' e : α} (h : [a, e, e].Perm [a', b', c'])
    (hne : a' ≠ e) : a' = a ∧ b' = e ∧ c' = e := by
  have ha : a' = a := by
    have hmem : a' ∈ [a, e, e] := h.mem_iff.mpr (List.mem_cons_self ..)
    simpa [hne] using hmem
  subst ha
  have htail := (List.perm_cons _).mp h
  have hb : b' ∈ [e, e] := htail.mem_iff.mpr (List.mem_cons_self ..)
  have hc : c' ∈ [e, e] := htail.mem_iff.mpr (List.mem_cons_of_mem _ (List.mem_cons_self ..))
  exact ⟨rfl, by simpa using hb, by simpa using hc⟩

/-- No storage entry is collected from no storage key. -/
theorem contractStorageKeys_eq_nil_iff {items : List QueryItem} :
    (collectQuery items).contractStorageKeys = [] ↔
      items.filterMap QueryItem.asStoragePair = [] := by
  rw [← (collectQuery_spec items).2.2]
  constructor
  · intro h
    rw [h]
    rfl
  · intro h
    refine List.eq_nil_iff_forall_not_mem.mpr fun csk hcsk => ?_
    obtain ⟨k, hk⟩ := List.exists_mem_of_ne_nil _ (storageKeys_ne_nil_collectQuery items csk hcsk)
    have hpair : (csk.contractAddress, k) ∈ storagePairs (collectQuery items).contractStorageKeys :=
      List.mem_flatMap.mpr ⟨csk, hcsk, List.mem_map.mpr ⟨k, hk, rfl⟩⟩
    rw [h] at hpair
    cases hpair

/-- A storage key, as an item. -/
def storageItem (pair : Felt × Felt) : QueryItem := .storageKey pair.1 pair.2

/-- Items by their kinds. -/
theorem perm_kinds (items : List QueryItem) :
    items.Perm ((items.filterMap QueryItem.asClassHash).map .classHash
      ++ ((items.filterMap QueryItem.asContractAddress).map .contractAddress
        ++ (items.filterMap QueryItem.asStoragePair).map storageItem)) := by
  induction items with
  | nil => exact .nil
  | cons item items ih =>
      cases item with
      | classHash h => exact ih.cons _
      | contractAddress a => exact (ih.cons _).trans List.perm_middle.symm
      | storageKey a k =>
          refine (ih.cons _).trans ?_
          rw [← List.append_assoc]
          exact List.perm_middle.symm.trans (by rw [List.append_assoc]; rfl)

/-- The arrays of class hashes alone. -/
theorem sortedArrays_classHashes (hs : List Felt) :
    sortedArrays (hs.map .classHash)
      = (normalizeJson (.arr (hs.map feltJson)), .arr [], .arr []) := by
  have hclasses : (hs.map QueryItem.classHash).filterMap QueryItem.asClassHash = hs := by
    simp [List.filterMap_map, Function.comp_def, QueryItem.asClassHash]
  have haddresses : (hs.map QueryItem.classHash).filterMap QueryItem.asContractAddress = [] := by
    simp [List.filterMap_map, Function.comp_def, QueryItem.asContractAddress]
  have hkeys : (hs.map QueryItem.classHash).filterMap QueryItem.asStoragePair = [] := by
    simp [List.filterMap_map, Function.comp_def, QueryItem.asStoragePair]
  rw [sortedArrays, (collectQuery_spec _).1, (collectQuery_spec _).2.1, hclasses, haddresses,
    contractStorageKeys_eq_nil_iff.mpr hkeys]
  rfl

/-- The arrays of storage keys alone. -/
theorem sortedArrays_storageKeys (pairs : List (Felt × Felt)) :
    (sortedArrays (pairs.map storageItem)).1 = .arr [] ∧
      (sortedArrays (pairs.map storageItem)).2.1 = .arr [] ∧
      storagePairs (collectQuery (pairs.map storageItem)).contractStorageKeys = pairs := by
  have hclasses : (pairs.map storageItem).filterMap QueryItem.asClassHash = [] := by
    simp [List.filterMap_map, Function.comp_def, QueryItem.asClassHash, storageItem]
  have haddresses : (pairs.map storageItem).filterMap QueryItem.asContractAddress = [] := by
    simp [List.filterMap_map, Function.comp_def, QueryItem.asContractAddress, storageItem]
  have hkeys : (pairs.map storageItem).filterMap QueryItem.asStoragePair = pairs := by
    simp [List.filterMap_map, Function.comp_def, QueryItem.asStoragePair, storageItem]
  obtain ⟨hc, ha, hs⟩ := collectQuery_spec (pairs.map storageItem)
  refine ⟨?_, ?_, hs.trans hkeys⟩
  · rw [sortedArrays, hc, hclasses]
    rfl
  · rw [sortedArrays, ha, haddresses]
    rfl

/-- The arrays of some items that are empty. -/
theorem sortedArrays_eq_nil (items : List QueryItem) :
    ((sortedArrays items).1 = .arr [] ↔ items.filterMap QueryItem.asClassHash = []) ∧
      ((sortedArrays items).2.1 = .arr [] ↔ items.filterMap QueryItem.asContractAddress = []) ∧
      ((sortedArrays items).2.2 = .arr [] ↔ items.filterMap QueryItem.asStoragePair = []) := by
  obtain ⟨hc, ha, -⟩ := collectQuery_spec items
  rw [sortedArrays, normalizeJson_arr_eq_nil, normalizeJson_arr_eq_nil, normalizeJson_arr_eq_nil,
    List.map_eq_nil_iff, List.map_eq_nil_iff, List.map_eq_nil_iff, List.map_eq_nil_iff, hc, ha,
    contractStorageKeys_eq_nil_iff]
  exact ⟨.rfl, .rfl, .rfl⟩

/-- **A request of class hashes is told from every other with a class hash.** -/
theorem perm_of_classHashes {form : ParamsForm} {blockNumber : ℕ} {hs : List Felt}
    {items : List QueryItem} {c : Felt} (hmem : .classHash c ∈ items)
    (h : (proofRequest blockNumber (collectQuery (hs.map .classHash))).sortedParams form
      = (proofRequest blockNumber (collectQuery items)).sortedParams form) :
    (hs.map QueryItem.classHash).Perm items := by
  obtain ⟨hnilClasses, hnilAddresses, hnilKeys⟩ := sortedArrays_eq_nil items
  have hne : (sortedArrays items).1 ≠ .arr [] := by
    rw [Ne, hnilClasses]
    exact List.ne_nil_of_mem (List.mem_filterMap.mpr ⟨_, hmem, rfl⟩)
  have hperm := perm_sortedArrays h
  rw [sortedArrays_classHashes] at hperm
  obtain ⟨hclasses, haddresses, hkeys⟩ := eq_of_perm_three hperm hne
  rw [sortedArrays, (collectQuery_spec items).1] at hclasses
  have hkinds := perm_kinds items
  rw [hnilAddresses.mp haddresses, hnilKeys.mp hkeys, List.map_nil, List.map_nil, List.append_nil,
    List.append_nil] at hkinds
  exact ((perm_of_normalizeJson_felts hclasses).symm.map _).trans hkinds.symm

/-- **A request of storage keys is told from every other with a storage key.** -/
theorem perm_of_storageKeys {form : ParamsForm} {blockNumber : ℕ} {pairs : List (Felt × Felt)}
    {items : List QueryItem} {pair : Felt × Felt} (hmem : storageItem pair ∈ items)
    (h : (proofRequest blockNumber (collectQuery (pairs.map storageItem))).sortedParams form
      = (proofRequest blockNumber (collectQuery items)).sortedParams form) :
    (pairs.map storageItem).Perm items := by
  obtain ⟨hnilClasses, hnilAddresses, hnilKeys⟩ := sortedArrays_eq_nil items
  have hne : (sortedArrays items).2.2 ≠ .arr [] := by
    rw [Ne, hnilKeys]
    exact List.ne_nil_of_mem (List.mem_filterMap.mpr ⟨_, hmem, rfl⟩)
  obtain ⟨hnoClasses, hnoAddresses, hpairs⟩ := sortedArrays_storageKeys pairs
  have hperm := perm_sortedArrays h
  rw [hnoClasses, hnoAddresses] at hperm
  have hlast {a b c : Json} : ([a, b] ++ [c]).Perm ([c] ++ [a, b]) :=
    List.perm_append_comm
  have hrotated := hlast.symm.trans (hperm.trans hlast)
  obtain ⟨hkeys, hclasses, haddresses⟩ := eq_of_perm_three hrotated hne
  have hsame := storagePairs_of_normalizeJson hkeys
  rw [hpairs, (collectQuery_spec items).2.2] at hsame
  have hkinds := perm_kinds items
  rw [hnilClasses.mp hclasses, hnilAddresses.mp haddresses, List.map_nil, List.map_nil,
    List.nil_append, List.nil_append] at hkinds
  exact (hsame.symm.map _).trans hkinds.symm

/-! ### A cut -/

/-- Neighbours around a cut are both class hashes, after class hashes, or both keys of a contract,
before storage keys. -/
inductive CutInside : List QueryItem → QueryItem → QueryItem → List QueryItem → Prop where
  | classHashes (hs : List Felt) (h h' : Felt) (items : List QueryItem) :
      CutInside (hs.map .classHash) (.classHash h) (.classHash h') items
  | storageKeys (items : List QueryItem) (a k k' : Felt) (pairs : List (Felt × Felt)) :
      CutInside items (.storageKey a k) (.storageKey a k') (pairs.map storageItem)

/-- What is left of the items around a cut when it is looked at from near. -/
theorem CutInside.near {items items' : List QueryItem} {x y : QueryItem}
    (h : CutInside items x y items') (i j : ℕ) : CutInside (items.drop i) x y (items'.take j) := by
  cases h with
  | classHashes hs c c' items' =>
      rw [← List.map_drop]
      exact .classHashes (hs.drop i) c c' _
  | storageKeys items a k k' pairs =>
      rw [← List.map_take]
      exact .storageKeys _ a k k' (pairs.take j)

/-- **The requests around a cut tell the neighbours.** -/
theorem CutInside.not_perm {form : ParamsForm} {blockNumber : ℕ} {before after : List QueryItem}
    {x y : QueryItem} (h : CutInside before x y after) (hbefore : before ≠ [])
    (hnodup : (before ++ x :: y :: after).Nodup) :
    ¬ ([before ++ [y], x :: after].map fun items =>
        (proofRequest blockNumber (collectQuery items)).sortedParams form).Perm
      ([before ++ [x], y :: after].map fun items =>
        (proofRequest blockNumber (collectQuery items)).sortedParams form) := by
  intro hperm
  obtain ⟨-, hxy, hdisjoint⟩ := List.nodup_append'.mp hnodup
  obtain ⟨hx, hy⟩ := List.nodup_cons.mp hxy
  have hne : x ≠ y := fun heq => hx (heq ▸ List.mem_cons_self ..)
  have hyAfter : y ∉ after := (List.nodup_cons.mp hy).1
  obtain ⟨z, hz⟩ := List.exists_mem_of_ne_nil before hbefore
  have hzx : z ≠ x := fun heq => hdisjoint hz (heq ▸ List.mem_cons_self ..)
  have hzy : z ≠ y :=
    fun heq => hdisjoint hz (heq ▸ List.mem_cons_of_mem _ (List.mem_cons_self ..))
  have hzAfter : z ∉ after :=
    fun hmem => hdisjoint hz (List.mem_cons_of_mem _ (List.mem_cons_of_mem _ hmem))
  have hxBefore : x ∉ before := fun hmem => hdisjoint hmem (List.mem_cons_self ..)
  cases h with
  | classHashes hs c c' after =>
      -- the request before the cut has class hashes only
      have hall : (hs ++ [c]).map QueryItem.classHash = hs.map .classHash ++ [.classHash c] :=
        List.map_append
      rcases List.mem_pair.mp (hperm.mem_iff.mpr (List.mem_cons_self ..)) with hsame | hsame
      · rw [← hall] at hsame
        have hitems := perm_of_classHashes (c := c') (by simp) hsame
        have hmem : QueryItem.classHash c ∈ hs.map .classHash ++ [.classHash c'] :=
          hitems.mem_iff.mp (by simp)
        rcases List.mem_append.mp hmem with hmem | hmem
        · exact hxBefore hmem
        · exact hne (List.mem_singleton.mp hmem)
      · rw [← hall] at hsame
        have hitems := perm_of_classHashes (c := c) (by simp) hsame
        have hmem : z ∈ .classHash c :: after :=
          hitems.mem_iff.mp (hall ▸ List.mem_append_left _ hz)
        rcases List.mem_cons.mp hmem with hmem | hmem
        · exact hzx hmem
        · exact hzAfter hmem
  | storageKeys before a k k' pairs =>
      -- the request after the cut has storage keys only
      have hall : ((a, k') :: pairs).map storageItem
          = .storageKey a k' :: pairs.map storageItem := rfl
      rcases List.mem_pair.mp (hperm.mem_iff.mpr (List.mem_cons_of_mem _ (List.mem_cons_self ..)))
        with hsame | hsame
      · rw [← hall] at hsame
        have hfirst : storageItem (a, k') ∈ before ++ [.storageKey a k'] := by simp [storageItem]
        have hitems := perm_of_storageKeys hfirst hsame
        have hmem : z ∈ .storageKey a k' :: pairs.map storageItem :=
          hitems.mem_iff.mpr (List.mem_append_left _ hz)
        rcases List.mem_cons.mp hmem with hmem | hmem
        · exact hzy hmem
        · exact hzAfter hmem
      · rw [← hall] at hsame
        have hfirst : storageItem (a, k) ∈ .storageKey a k :: pairs.map storageItem :=
          List.mem_cons_self ..
        have hitems := perm_of_storageKeys hfirst hsame
        have hmem : QueryItem.storageKey a k' ∈ .storageKey a k :: pairs.map storageItem :=
          hitems.mem_iff.mp (List.mem_cons_self ..)
        rcases List.mem_cons.mp hmem with hmem | hmem
        · exact hne hmem.symm
        · exact hyAfter hmem

/-- **Two neighbours around a cut go into other requests in the other order.** -/
theorem not_perm_of_cut {form : ParamsForm} {blockNumber : ℕ}
    {query query' : RpcStorageProofsQuery} {items items' : List QueryItem} {x y : QueryItem}
    (hcut : maxKeysPerRequest ∣ items.length + 1) (hinside : CutInside items x y items')
    (hflat : flattenQuery query = items ++ x :: y :: items')
    (hflat' : flattenQuery query' = items ++ y :: x :: items')
    (hnodup : (flattenQuery query).Nodup) :
    ¬ (sortedRequests form blockNumber query').Perm (sortedRequests form blockNumber query) := by
  have hpos : 0 < maxKeysPerRequest := by decide
  have hle : maxKeysPerRequest ≤ items.length + 1 := Nat.le_of_dvd (Nat.succ_pos _) hcut
  have hmany : maxKeysPerRequest < countTotalKeys query := by
    rw [← length_flattenQuery, hflat]
    simp only [List.length_append, List.length_cons]
    omega
  have hmany' : maxKeysPerRequest < countTotalKeys query' := by
    rw [← length_flattenQuery, hflat']
    simp only [List.length_append, List.length_cons]
    omega
  have hbefore : items.drop (items.length + 1 - maxKeysPerRequest) ≠ [] := by
    refine List.ne_nil_of_length_pos ?_
    rw [List.length_drop]
    rw [maxKeysPerRequest] at *
    omega
  have hnear : (items.drop (items.length + 1 - maxKeysPerRequest)
      ++ x :: y :: items'.take (maxKeysPerRequest - 1)).Sublist (flattenQuery query) := by
    rw [hflat]
    exact (List.drop_sublist _ _).append (((List.take_sublist _ _).cons_cons y).cons_cons x)
  intro hperm
  rw [sortedRequests_eq form blockNumber hmany, sortedRequests_eq form blockNumber hmany', hflat,
    hflat', chunks_at_cut hpos hcut, chunks_at_cut hpos hcut, List.map_append, List.map_append,
    List.perm_append_left_iff, List.map_cons, List.map_cons, List.map_cons, List.map_cons] at hperm
  exact (hinside.near _ _).not_perm hbefore (hnear.nodup hnodup)
    ((List.perm_append_right_iff _).mp hperm)

/-! ### Every order -/

section EveryOrder

variable {Output Message BaseBlockInfo : Type} {cache : StateCache}
  {executionData : VirtualBlockExecutionData Output Message BaseBlockInfo}

theorem nodup_storageByAddress (initialReads : StateMaps) (address : ContractAddress) :
    (storageByAddress initialReads address).Nodup := by
  refine List.Nodup.map_on ?_ (initialReads.storage.nodupKeys.filter _)
  rintro ⟨a, key⟩ ha ⟨a', key'⟩ ha' hkey
  have haddress : a = address := of_decide_eq_true (List.mem_filter.mp ha).2
  have haddress' : a' = address := of_decide_eq_true (List.mem_filter.mp ha').2
  rw [haddress, haddress', PatriciaKey.key_injective hkey]

/-- No key is asked for twice. -/
theorem nodup_flattenQuery_prepareQuery :
    (flattenQuery (prepareQuery cache executionData)).Nodup := by
  have haddresses := (aligned_prepareQuery cache executionData).nodup
  have hclasses : (executionData.executedClassHashes.map QueryItem.classHash).Nodup :=
    executionData.nodup_executedClassHashes.map fun _ _ h => QueryItem.classHash.inj h
  have hcontracts : ((prepareQuery cache executionData).contractAddresses.map
      QueryItem.contractAddress).Nodup :=
    haddresses.map fun _ _ h => QueryItem.contractAddress.inj h
  have hkeys : ((prepareQuery cache executionData).contractAddresses.flatMap fun address =>
      (storageByAddress executionData.initialReads address).map
        (QueryItem.storageKey address.key)).Nodup := by
    refine List.nodup_flatMap.mpr ⟨fun address _ => ?_, haddresses.imp fun hne => ?_⟩
    · exact (nodup_storageByAddress _ address).map fun _ _ h => (QueryItem.storageKey.inj h).2
    · rintro item hitem hitem'
      obtain ⟨k, -, rfl⟩ := List.mem_map.mp hitem
      obtain ⟨k', -, heq⟩ := List.mem_map.mp hitem'
      exact hne (PatriciaKey.key_injective (QueryItem.storageKey.inj heq).1.symm)
  rw [flattenQuery, prepareQuery, List.flatMap_map]
  refine List.nodup_append'.mpr ⟨List.nodup_append'.mpr ⟨hclasses, hcontracts, ?_⟩, hkeys, ?_⟩
  · rintro item hitem hitem'
    obtain ⟨h, -, rfl⟩ := List.mem_map.mp hitem
    obtain ⟨a, -, heq⟩ := List.mem_map.mp hitem'
    cases heq
  · rintro item hitem hitem'
    obtain ⟨a, -, hkey⟩ := List.mem_flatMap.mp hitem'
    obtain ⟨k, -, rfl⟩ := List.mem_map.mp hkey
    rcases List.mem_append.mp hitem with hitem | hitem
    · obtain ⟨h, -, heq⟩ := List.mem_map.mp hitem
      cases heq
    · obtain ⟨a', -, heq⟩ := List.mem_map.mp hitem
      cases heq

/-- The items of the keys at an address. -/
def keyItems (initialReads : StateMaps) (address : ContractAddress) : List QueryItem :=
  (storageByAddress initialReads address).map (.storageKey address.key)

/-- The items of the keys at some addresses, around two of them. -/
theorem flatMap_keyItems {initialReads : StateMaps} {as as' : List ContractAddress}
    {address : ContractAddress} {xs ys : List Felt} {x y : Felt}
    (h : storageByAddress initialReads address = xs ++ x :: y :: ys) :
    (as ++ address :: as').flatMap (keyItems initialReads)
      = (as.flatMap (keyItems initialReads) ++ xs.map (.storageKey address.key))
        ++ .storageKey address.key x :: .storageKey address.key y
          :: (ys.map (address.key, ·) ++ as'.flatMap fun a =>
            (storageByAddress initialReads a).map (a.key, ·)).map storageItem := by
  have hafter : (as'.flatMap fun a => (storageByAddress initialReads a).map (a.key, ·)).map
      storageItem = as'.flatMap (keyItems initialReads) := by
    rw [List.map_flatMap]
    refine List.flatMap_congr fun a _ => ?_
    rw [List.map_map]
    rfl
  rw [List.flatMap_append, List.flatMap_cons, List.map_append, hafter, List.map_map, keyItems, h,
    List.map_append, List.map_cons, List.map_cons, List.append_assoc, List.append_assoc]
  rfl

/-- The items of a prepared query. -/
theorem flattenQuery_prepareQuery (cache : StateCache)
    (executionData : VirtualBlockExecutionData Output Message BaseBlockInfo) :
    flattenQuery (prepareQuery cache executionData)
      = executionData.executedClassHashes.map .classHash
        ++ ((prepareQuery cache executionData).contractAddresses.map .contractAddress
          ++ (prepareQuery cache executionData).contractAddresses.flatMap
            (keyItems executionData.initialReads)) := by
  rw [flattenQuery, List.append_assoc]
  simp only [prepareQuery, List.flatMap_map]
  rfl

/-- Some execution data with its classes in another order. -/
def withClassHashes
    (executionData : VirtualBlockExecutionData Output Message BaseBlockInfo)
    (classHashes : List ClassHash) (h : classHashes.Perm executionData.executedClassHashes) :
    VirtualBlockExecutionData Output Message BaseBlockInfo :=
  { executionData with
    executedClassHashes := classHashes
    nodup_executedClassHashes := h.nodup_iff.mpr executionData.nodup_executedClassHashes }

/-- Some execution data with its storage reads in another order. -/
def withStorage
    (executionData : VirtualBlockExecutionData Output Message BaseBlockInfo)
    (entries : List ((ContractAddress × StorageKey) × Felt))
    (h : entries.Perm executionData.initialReads.storage.entries) :
    VirtualBlockExecutionData Output Message BaseBlockInfo :=
  { executionData with
    initialReads := { executionData.initialReads with
      storage := ⟨entries, (h.map Prod.fst).nodup_iff.mpr
        executionData.initialReads.storage.nodupKeys⟩ } }

theorem reorders_withClassHashes {classHashes : List ClassHash}
    (h : classHashes.Perm executionData.executedClassHashes) :
    Reorders executionData (withClassHashes executionData classHashes h) :=
  ⟨h, .refl _, rfl, rfl, rfl, rfl, rfl⟩

theorem reorders_withStorage {entries : List ((ContractAddress × StorageKey) × Felt)}
    (h : entries.Perm executionData.initialReads.storage.entries) :
    Reorders executionData (withStorage executionData entries h) :=
  ⟨.refl _, h, rfl, rfl, rfl, rfl, rfl⟩

/-- The keys read at an address, from the entries. -/
theorem storageByAddress_eq (initialReads : StateMaps) (address : ContractAddress) :
    storageByAddress initialReads address
      = (initialReads.storage.entries.filter fun entry => entry.1.1 = address).map
        fun entry => entry.1.2.key := by
  rw [storageByAddress, IndexMap.keys, List.filter_map, List.map_map]
  rfl

/-- **The keys of one contract can come in any order**, and those of the others stay. -/
theorem exists_storage_order {address : ContractAddress} {xs ys : List Felt} {x y : Felt}
    (h : storageByAddress executionData.initialReads address = xs ++ x :: y :: ys) :
    ∃ (entries : List ((ContractAddress × StorageKey) × Felt))
      (hperm : entries.Perm executionData.initialReads.storage.entries),
      ∀ a, storageByAddress (withStorage executionData entries hperm).initialReads a
        = if a = address then xs ++ y :: x :: ys
          else storageByAddress executionData.initialReads a := by
  set entries := executionData.initialReads.storage.entries with hentries
  rw [storageByAddress_eq, ← hentries] at h
  obtain ⟨es, rest, hsplit, hes, hrest⟩ := List.map_eq_append_iff.mp h
  obtain ⟨ex, rest, rfl, hex, hrest⟩ := List.map_eq_cons_iff.mp hrest
  obtain ⟨ey, es', rfl, hey, hes'⟩ := List.map_eq_cons_iff.mp hrest
  have hown : ∀ entry ∈ es ++ ex :: ey :: es', entry.1.1 = address := by
    intro entry hentry
    rw [← hsplit] at hentry
    exact of_decide_eq_true (List.mem_filter.mp hentry).2
  have hown' : ∀ entry ∈ es ++ ey :: ex :: es', entry.1.1 = address := by
    intro entry hentry
    refine hown entry (List.Perm.mem_iff ?_ |>.mp hentry)
    exact (List.Perm.swap ex ey es').append_left es
  have hperm : ((es ++ ey :: ex :: es') ++ entries.filter fun entry => ¬ entry.1.1 = address).Perm
      entries := by
    have hswap : (es ++ ey :: ex :: es').Perm
        (entries.filter fun entry => entry.1.1 = address) := by
      rw [hsplit]
      exact (List.Perm.swap ex ey es').append_left es
    refine (hswap.append_right _).trans ?_
    simpa using List.filter_append_perm (fun entry => decide (entry.1.1 = address)) entries
  refine ⟨_, hperm, fun a => ?_⟩
  rw [storageByAddress_eq]
  change (List.filter _ ((es ++ ey :: ex :: es') ++ _)).map _ = _
  rw [List.filter_append]
  by_cases ha : a = address
  · subst ha
    have hall : (es ++ ey :: ex :: es').filter (fun entry => entry.1.1 = a)
        = es ++ ey :: ex :: es' :=
      List.filter_eq_self.mpr fun entry hentry => decide_eq_true (hown' entry hentry)
    have hnone : ((entries.filter fun entry => ¬ entry.1.1 = a).filter
        fun entry => entry.1.1 = a) = [] := by
      rw [List.filter_filter, List.filter_eq_nil_iff]
      intro entry _
      simp
    rw [hall, hnone, List.append_nil, if_pos rfl, List.map_append, List.map_cons, List.map_cons,
      hes, hex, hey, hes']
  · have hnone : (es ++ ey :: ex :: es').filter (fun entry => entry.1.1 = a) = [] := by
      rw [List.filter_eq_nil_iff]
      intro entry hentry
      rw [hown' entry hentry]
      simpa using Ne.symm ha
    have hrest : ((entries.filter fun entry => ¬ entry.1.1 = address).filter
        fun entry => entry.1.1 = a) = entries.filter fun entry => entry.1.1 = a := by
      rw [List.filter_filter]
      refine List.filter_congr fun entry _ => ?_
      by_cases hentry : entry.1.1 = a
      · simp [hentry, ha]
      · simp [hentry]
    rw [hnone, List.nil_append, hrest, if_neg ha, storageByAddress_eq]

/-- What is fetched is fetched with the requests of the query. -/
theorem reproducible_iff_sortedRequests {form : ParamsForm} {blockNumber : ℕ} :
    Reproducible form cache blockNumber executionData ↔
      ∀ executionData', Reorders executionData executionData' →
        (sortedRequests form blockNumber (prepareQuery cache executionData')).Perm
          (sortedRequests form blockNumber (prepareQuery cache executionData)) := by
  have hlog {data : VirtualBlockExecutionData Output Message BaseBlockInfo} {node : ProofNode}
      {proof : RpcStorageProof} {exchanges : List (StorageProofRequest × RpcStorageProof)}
      (hfetch : fetchProofs node blockNumber (prepareQuery cache data) []
        = .ok (proof, exchanges)) :
      exchanges.map (fun exchange => exchange.1.sortedParams form)
        = sortedRequests form blockNumber (prepareQuery cache data) := by
    have hnd := (aligned_prepareQuery cache data).nodup_storageAddresses
    obtain ⟨first, rest, hanswered, -, rfl⟩ := (fetchProofs_eq_ok hnd).mp hfetch
    conv_rhs => rw [sortedRequests, ← List.map_fst_zip hanswered.length_eq.ge, List.map_map]
    rfl
  constructor
  · intro h executionData' hreorders
    -- a node that answers every request
    let node : ProofNode := fun _ _ => .ok ⟨.empty, ⟨.empty, []⟩, [], ⟨0, 0, 0⟩⟩
    have hfetch (data : VirtualBlockExecutionData Output Message BaseBlockInfo) :
        ∃ proof exchanges,
          fetchProofs node blockNumber (prepareQuery cache data) [] = .ok (proof, exchanges) := by
      have hnd := (aligned_prepareQuery cache data).nodup_storageAddresses
      obtain ⟨replies, hanswered, hreplies⟩ := Answered.exists_of_total (P := fun _ _ => True)
        (proofRequest blockNumber) 0 (sentQueries (prepareQuery cache data))
        fun i query _ => ⟨_, (rfl : node i (proofRequest blockNumber query) = _), trivial⟩
      cases hreplies' : replies with
      | nil =>
          rw [hreplies', List.forall₂_nil_right_iff] at hreplies
          exact absurd hreplies (sentQueries_ne_nil _)
      | cons first rest =>
          exact ⟨_, _, (fetchProofs_eq_ok hnd).mpr ⟨first, rest, hreplies' ▸ hanswered, rfl, rfl⟩⟩
    obtain ⟨proof, exchanges, hproof⟩ := hfetch executionData
    obtain ⟨proof', exchanges', hproof'⟩ := hfetch executionData'
    have hperm := h _ _ _ _ _ _ _ hreorders hproof hproof'
    rwa [hlog hproof, hlog hproof'] at hperm
  · intro h executionData' node node' proof proof' exchanges exchanges' hreorders hproof hproof'
    rw [hlog hproof, hlog hproof']
    exact h executionData' hreorders

/-- More classes than go into one request. -/
theorem not_reproducible_of_classes {form : ParamsForm} {blockNumber : ℕ}
    (h : ¬ executionData.executedClassHashes.length ≤ maxKeysPerRequest) :
    ¬ Reproducible form cache blockNumber executionData := by
  have hblock : ¬ AllInOneChunk maxKeysPerRequest 0
      ([executionData.executedClassHashes].map List.length) := by
    rintro ⟨hone, -⟩
    rw [InOneChunk, maxKeysPerRequest] at hone
    rw [maxKeysPerRequest] at h
    omega
  obtain ⟨blocks₁, xs, x, y, ys, blocks₂, hblocks, hcut⟩ := exists_cut (by decide) hblock
  obtain ⟨rfl, hsplit⟩ : blocks₁ = [] ∧ executionData.executedClassHashes = xs ++ x :: y :: ys := by
    cases blocks₁ with
    | nil => exact ⟨rfl, (List.cons.inj hblocks).1⟩
    | cons block blocks₁ =>
        have hnil := (List.cons.inj hblocks).2
        simp at hnil
  rw [List.flatten_nil, List.nil_append, Nat.zero_add] at hcut
  have hperm : (xs ++ y :: x :: ys).Perm executionData.executedClassHashes := by
    rw [hsplit]
    exact (List.Perm.swap x y ys).append_left xs
  have hrest {classHashes : List Felt} {rest : List QueryItem} {a b : Felt}
      (hclasses : classHashes = xs ++ a :: b :: ys) :
      classHashes.map QueryItem.classHash ++ rest = xs.map .classHash
        ++ .classHash a :: .classHash b :: (ys.map .classHash ++ rest) := by
    rw [hclasses, List.map_append, List.append_assoc]
    rfl
  have hflat := (flattenQuery_prepareQuery cache executionData).trans (hrest hsplit)
  have hflat' := (flattenQuery_prepareQuery cache
    (withClassHashes executionData _ hperm)).trans (hrest rfl)
  rw [reproducible_iff_sortedRequests]
  intro hall
  refine not_perm_of_cut ?_ (.classHashes xs x y _) hflat hflat' nodup_flattenQuery_prepareQuery
    (hall _ (reorders_withClassHashes hperm))
  rwa [List.length_map]

/-- A contract whose keys go into more than one request. -/
theorem not_reproducible_of_keys {form : ParamsForm} {blockNumber : ℕ}
    (h : ¬ AllInOneChunk maxKeysPerRequest
      (executionData.executedClassHashes.length
        + (prepareQuery cache executionData).contractAddresses.length)
      ((prepareQuery cache executionData).contractAddresses.map fun address =>
        (storageByAddress executionData.initialReads address).length)) :
    ¬ Reproducible form cache blockNumber executionData := by
  have hflat := flattenQuery_prepareQuery cache executionData
  have hdistinct := (aligned_prepareQuery cache executionData).nodup
  have hsame {entries : List ((ContractAddress × StorageKey) × Felt)}
      (hperm : entries.Perm executionData.initialReads.storage.entries) :
      (prepareQuery cache (withStorage executionData entries hperm)).contractAddresses
        = (prepareQuery cache executionData).contractAddresses :=
    (reorders_withStorage hperm).contractAddresses
  generalize haddresses : (prepareQuery cache executionData).contractAddresses = addresses at *
  have hblocks : ¬ AllInOneChunk maxKeysPerRequest
      (executionData.executedClassHashes.length + addresses.length)
      ((addresses.map (storageByAddress executionData.initialReads)).map List.length) := by
    rwa [List.map_map]
  obtain ⟨blocks₁, xs, x, y, ys, blocks₂, heq, hcut⟩ := exists_cut (by decide) hblocks
  obtain ⟨as, rest, rfl, rfl, hrest⟩ := List.map_eq_append_iff.mp heq
  obtain ⟨address, as', rfl, hkeys, rfl⟩ := List.map_eq_cons_iff.mp hrest
  obtain ⟨entries, hperm, hentries⟩ := exists_storage_order hkeys
  have hflat' := flattenQuery_prepareQuery cache (withStorage executionData entries hperm)
  have hother : ∀ a ∈ as ++ as',
      storageByAddress (withStorage executionData entries hperm).initialReads a
        = storageByAddress executionData.initialReads a := by
    intro a ha
    rw [hentries, if_neg]
    rintro rfl
    exact (List.nodup_middle.mp hdistinct).notMem ha
  have hbefore : as.flatMap (keyItems (withStorage executionData entries hperm).initialReads)
      = as.flatMap (keyItems executionData.initialReads) :=
    List.flatMap_congr fun a ha => by
      rw [keyItems, keyItems, hother a (List.mem_append_left _ ha)]
  have hafter : (as'.flatMap fun a =>
      (storageByAddress (withStorage executionData entries hperm).initialReads a).map (a.key, ·))
        = as'.flatMap fun a => (storageByAddress executionData.initialReads a).map (a.key, ·) :=
    List.flatMap_congr fun a ha => by rw [hother a (List.mem_append_right _ ha)]
  have hswapped := hentries address
  rw [if_pos rfl] at hswapped
  rw [flatMap_keyItems hkeys, ← List.append_assoc, ← List.append_assoc] at hflat
  rw [hsame hperm, flatMap_keyItems hswapped, hbefore, hafter, ← List.append_assoc,
    ← List.append_assoc] at hflat'
  rw [reproducible_iff_sortedRequests]
  intro hall
  refine not_perm_of_cut ?_ (.storageKeys _ address.key x y _) hflat hflat'
    nodup_flattenQuery_prepareQuery (hall _ (reorders_withStorage hperm))
  have hlen : (as.flatMap (keyItems executionData.initialReads)).length
      = (as.map (storageByAddress executionData.initialReads)).flatten.length := by
    rw [List.length_flatMap, List.length_flatten, List.map_map]
    simp only [keyItems, Function.comp_def, List.length_map]
  simp only [List.length_append, List.length_map, hlen] at hcut ⊢
  simpa only [Nat.add_assoc] using hcut

/-- **When a run can be replayed**: exactly when no more classes are executed than go into one
request, and the keys of every contract go into one. -/
theorem reproducible_iff (form : ParamsForm) (cache : StateCache) (blockNumber : ℕ)
    (executionData : VirtualBlockExecutionData Output Message BaseBlockInfo) :
    Reproducible form cache blockNumber executionData ↔ Uncut cache executionData := by
  constructor
  · intro h
    by_contra hcut
    rcases not_and_or.mp hcut with hclasses | hkeys
    · exact not_reproducible_of_classes hclasses h
    · exact not_reproducible_of_keys hkeys h
  · intro h
    rw [reproducible_iff_sortedRequests]
    intro executionData' hreorders
    have hbags : (prepareQuery cache executionData').bags
        = (prepareQuery cache executionData).bags := hreorders.bags
    rw [sortedRequests_of_bags form blockNumber hbags.symm (uncut_iff.mp h)]

/-- An execution of 101 classes. -/
def manyClasses : VirtualBlockExecutionData Unit Unit Unit where
  executionOutputs := []
  initialReads := .default
  stateDiff := .default
  executedClassHashes := (List.range 101).map .ofNat
  nodup_executedClassHashes := by decide +kernel
  l2ToL1Messages := []
  baseBlockInfo := ()

/-- The requests for 101 classes are not the same in every order. -/
theorem manyClasses_not_reproducible :
    ¬ Reproducible .byName sampleCache 800000 manyClasses ∧
      ¬ Reproducible .byPosition sampleCache 800000 manyClasses := by
  have hmany : ¬ manyClasses.executedClassHashes.length ≤ maxKeysPerRequest := by decide +kernel
  exact ⟨not_reproducible_of_classes hmany, not_reproducible_of_classes hmany⟩

end EveryOrder

end Snip36.StorageProofs
