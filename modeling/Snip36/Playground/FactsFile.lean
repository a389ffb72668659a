import Snip36.Playground.Handlers
import Snip36.Playground.SessionFiles

/-!
# Playground — the file of the facts of a proof

Three places name the file of the facts after the file of the proof.  The script that makes the
proof takes its suffix `.proof` away and adds `.proof_facts`, `prove_block` replaces its extension,
and `submit_proof` replaces every `.proof` in its path.

`factsAgree_iff`: they name one file exactly when there is no other `.proof` in the path, and the
session id has something after its last slash.
-/

namespace Snip36.Playground
open Support Paths

/-- The three places name one file. -/
def FactsAgree (outputDir sessionId : String) : Prop :=
  proofFactsFile (proofPath outputDir sessionId) = factsOutput (proofPath outputDir sessionId) ∧
    blockProofFactsFile outputDir sessionId = factsOutput (proofPath outputDir sessionId)

/-- `.proof`. -/
def proofSuffix : List Char := ['.', 'p', 'r', 'o', 'o', 'f']

/-- `.proof_facts`. -/
def factsSuffix : List Char := ".proof_facts".toList

theorem noOverlap_proofSuffix : NoOverlap proofSuffix := by
  rintro a as heq
  obtain ⟨rfl, rfl⟩ := List.cons.inj heq
  decide

/-! ### The paths -/

/-- A joined path, by its base and its end. -/
theorem join_eq (dir path : String) :
    join dir path = joinedBase dir path ++ String.ofList (lastPart path).toList := by
  have hnone : join dir (path ++ String.ofList []) = _ := join_suffix dir path List.not_mem_nil
  rwa [List.append_nil, String.ofList_nil, String.append_empty] at hnone

/-- The path of the proof, up to its suffix. -/
theorem toList_proofPath (outputDir sessionId : String) :
    (proofPath outputDir sessionId).toList
      = (join (playgroundDir outputDir) sessionId).toList ++ proofSuffix := by
  rw [proofPath_eq, SessionFile.path, join_eq, String.toList_append, String.toList_append,
    String.toList_ofList, String.toList_ofList, SessionFile.name, ← List.append_assoc]
  rfl

theorem withoutProof_append (cs : List Char) : withoutProof (cs ++ proofSuffix) = cs := by
  have hsuffix : ".proof".toList.isSuffixOf (cs ++ proofSuffix) = true :=
    List.isSuffixOf_iff_suffix.mpr (List.suffix_append cs proofSuffix)
  have hlength : (cs ++ proofSuffix).length - 6 = cs.length := by
    rw [List.length_append]
    rfl
  rw [withoutProof, if_pos hsuffix, hlength, List.take_left]

/-- What the script writes to. -/
theorem factsOutput_proofPath (outputDir sessionId : String) :
    factsOutput (proofPath outputDir sessionId)
      = String.ofList ((join (playgroundDir outputDir) sessionId).toList ++ factsSuffix) := by
  rw [factsOutput, toList_proofPath, withoutProof_append]
  rfl

/-- Every `.proof` but the last is replaced in what `submit_proof` reads. -/
theorem proofFactsFile_proofPath (outputDir sessionId : String) :
    proofFactsFile (proofPath outputDir sessionId)
      = String.ofList (replaceAll proofSuffix factsSuffix
        (join (playgroundDir outputDir) sessionId).toList ++ factsSuffix) := by
  rw [proofFactsFile, toList_proofPath]
  exact congrArg String.ofList
    (replaceAll_append_old (List.cons_ne_nil _ _) noOverlap_proofSuffix _)

/-- The name of what the script writes to. -/
theorem factsOutput_eq (outputDir sessionId : String) :
    factsOutput (proofPath outputDir sessionId)
      = joinedBase (playgroundDir outputDir) sessionId
        ++ String.ofList ((lastPart sessionId).toList ++ factsSuffix) := by
  rw [factsOutput_proofPath, join_eq]
  refine String.toList_injective ?_
  rw [String.toList_ofList, String.toList_append, String.toList_append, String.toList_ofList,
    String.toList_ofList, List.append_assoc]

/-- **When the three places name one file.** -/
theorem factsAgree_iff (outputDir sessionId : String) :
    FactsAgree outputDir sessionId ↔
      ¬ proofSuffix <:+: (join (playgroundDir outputDir) sessionId).toList ∧
        lastPart sessionId ≠ "" := by
  refine and_congr ?_ ?_
  · have hne : proofSuffix ≠ [] := List.cons_ne_nil _ _
    have hlonger : proofSuffix.length < factsSuffix.length := by decide
    rw [proofFactsFile_proofPath, factsOutput_proofPath, ← replaceAll_eq_self_iff hne hlonger]
    constructor
    · exact fun h => List.append_cancel_right (String.ofList_injective h)
    · exact fun h => by rw [h]
  · rw [blockProofFactsFile, withExtension_proofPath _ _ _ (by decide), factsOutput_eq]
    have hfacts : '.' :: "proof_facts".toList = factsSuffix := rfl
    constructor
    · rintro h hlast
      have hnames := List.append_cancel_right
        (String.ofList_injective ((String.append_right_inj _).mp h))
      rw [hlast] at hnames
      exact absurd hnames (by decide)
    · intro h
      rw [hfacts, if_neg (String.toList_eq_nil_iff.not.mpr h)]

/-- A project in a directory whose name has `.proof` in it. -/
theorem not_factsAgree_sample :
    ¬ FactsAgree "/srv/demo.proofs/output" "s1" := by
  rw [factsAgree_iff]
  decide +kernel

end Snip36.Playground
