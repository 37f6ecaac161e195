import Mathlib.Data.List.Nodup
import TemplateCatalog.Failure.Explanation

/-!
# What contexts do to an explanation

Whoever meets a failure on its way puts what was being done around it. An error with advice of its
own is explained as if nobody had done so. Of any other failure all texts are shown, the outermost
in front and the others on numbered lines (`Explanation.shownLines`).

* `Failure.foldl_within`: contexts are put around what there was, the last of them outermost;
* `Explanation.withCauses_eq`: what is shown of texts, line by line;
* `Explanation.withCauses_inj`: no text is lost and none is shown twice, since texts without line
  breaks can be told from what is shown;
* `Failure.explained`: how every cause is explained, in whatever contexts it came.
-/

namespace TemplateCatalog

/-! ## Numbered lines -/

namespace Explanation

/-- The line of the cause with a number. -/
def causeLine (n : Nat) (cause : String) : String := "  " ++ toString n ++ ": " ++ cause

/-- The lines that show texts: one by itself, several as the first and its causes. -/
def shownLines : List String → List String
  | [] => []
  | [text] => [text]
  | text :: causes =>
    text :: "" :: "Caused by:" :: causes.mapIdx fun i cause => causeLine (i + 1) cause

/-- The numbered lines of causes follow a line. -/
theorem intercalate_mapIdx (line : String) (n : Nat) (causes : List String) :
    "\n".intercalate (line :: causes.mapIdx fun i cause => causeLine (i + n) cause) =
      line ++ String.join (numbered n causes) := by
  induction causes generalizing line n with
  | nil => simp [numbered]
  | cons cause causes ih =>
    have hnext : (fun i cause => causeLine (i + 1 + n) cause) =
        fun i cause => causeLine (i + (n + 1)) cause :=
      funext fun i => by rw [Nat.add_assoc, Nat.add_comm 1]
    rw [List.mapIdx_cons, String.intercalate_cons_cons, hnext, ih, numbered, String.join_cons,
      Nat.zero_add]
    simp only [causeLine, String.append_assoc]
    rfl

/-- All texts are shown, the first in front and the others as its causes. -/
theorem withCauses_eq (chain : List String) :
    withCauses chain = "\n".intercalate (shownLines chain) := by
  rcases chain with _ | ⟨text, _ | ⟨cause, causes⟩⟩
  · rfl
  · simp [withCauses, shownLines]
  · rw [withCauses, shownLines, String.intercalate_cons_cons, String.intercalate_cons_cons,
      intercalate_mapIdx]
    simp only [String.append_assoc]
    rfl
    all_goals simp

example : withCauses ["a", "b", "c"] = "a\n\nCaused by:\n  1: b\n  2: c" := by decide

/-! ## What is shown tells the texts -/

/-- A text takes one line. -/
def OneLine (text : String) : Prop := '\n' ∉ text.toList

instance : DecidablePred OneLine := fun text => inferInstanceAs (Decidable ('\n' ∉ text.toList))

theorem OneLine.append {a b : String} (ha : OneLine a) (hb : OneLine b) : OneLine (a ++ b) := by
  rw [OneLine, String.toList_append, List.mem_append]
  exact not_or.2 ⟨ha, hb⟩

theorem oneLine_toString (n : Nat) : OneLine (toString n) := by
  intro h
  have hdigits : (toString n).toList = Nat.toDigits 10 n := by simp
  rw [hdigits] at h
  exact absurd (Nat.isDigit_of_mem_toDigits (by decide) (by decide) h) (by decide)

theorem oneLine_causeLine {n : Nat} {cause : String} (h : OneLine cause) :
    OneLine (causeLine n cause) :=
  (((by decide : OneLine "  ").append (oneLine_toString n)).append (by decide)).append h

variable {chain chain' lines lines' : List String}

/-- Lines can be told from what they make, but for no line at all and one empty line. -/
theorem intercalate_inj (h : ∀ t ∈ lines, OneLine t) (h' : ∀ t ∈ lines', OneLine t)
    (hne : lines ≠ []) (hne' : lines' ≠ [])
    (heq : "\n".intercalate lines = "\n".intercalate lines') : lines = lines' := by
  have hsplit {l : List String} (hl : ∀ t ∈ l, OneLine t) (hne : l ≠ []) :
      List.splitOn '\n' ("\n".intercalate l).toList = l.map String.toList := by
    rw [String.toList_intercalate]
    exact List.splitOn_intercalate '\n' (List.forall_mem_map.2 hl) (by simpa using hne)
  have hlists := hsplit h hne
  rw [heq, hsplit h' hne'] at hlists
  exact (List.map_injective_iff.2 fun _ _ => String.toList_injective) hlists.symm

theorem oneLine_of_mem_shownLines (h : ∀ t ∈ chain, OneLine t) :
    ∀ t ∈ shownLines chain, OneLine t := by
  rcases chain with _ | ⟨text, _ | ⟨cause, causes⟩⟩
  · exact h
  · exact h
  · intro t ht
    rw [shownLines, List.mem_cons, List.mem_cons, List.mem_cons, List.mem_mapIdx] at ht
    · rcases ht with rfl | rfl | rfl | ⟨i, hi, rfl⟩
      · exact h t List.mem_cons_self
      · decide
      · decide
      · exact oneLine_causeLine (h _ (List.mem_cons_of_mem _ (List.getElem_mem hi)))
    · nofun

theorem causeLine_injective (n : Nat) : Function.Injective (causeLine n) := by
  intro cause cause' h
  simpa [causeLine] using h

theorem head?_shownLines (chain : List String) : (shownLines chain).head? = chain.head? := by
  rcases chain with _ | ⟨text, _ | ⟨cause, causes⟩⟩ <;> rfl

theorem drop_shownLines (chain : List String) : (shownLines chain).drop 3 =
    chain.tail.mapIdx fun i cause => causeLine (i + 1) cause := by
  rcases chain with _ | ⟨text, _ | ⟨cause, causes⟩⟩ <;> rfl

theorem shownLines_injective : Function.Injective shownLines := by
  intro chain chain' h
  have hhead : chain.head? = chain'.head? := by
    rw [← head?_shownLines, h, head?_shownLines]
  have htail : chain.tail = chain'.tail := by
    refine List.ext_getElem? fun i => Option.map_injective (causeLine_injective (i + 1)) ?_
    have hline := congrArg (fun l => (l.drop 3)[i]?) h
    simpa only [drop_shownLines, List.getElem?_mapIdx] using hline
  cases chain with
  | nil => cases chain' with
    | nil => rfl
    | cons text' causes' => cases hhead
  | cons text causes => cases chain' with
    | nil => cases hhead
    | cons text' causes' => rw [Option.some.inj hhead, show causes = causes' from htail]

/-- Texts without line breaks are told by what is shown of them. -/
theorem withCauses_inj (h : ∀ t ∈ chain, OneLine t) (h' : ∀ t ∈ chain', OneLine t)
    (hne : chain ≠ []) (hne' : chain' ≠ []) (heq : withCauses chain = withCauses chain') :
    chain = chain' := by
  have hshown {l : List String} (hl : l ≠ []) : shownLines l ≠ [] := by
    rcases l with _ | ⟨text, _ | ⟨cause, causes⟩⟩
    · exact absurd rfl hl
    · nofun
    · nofun
  rw [withCauses_eq, withCauses_eq] at heq
  exact shownLines_injective (intercalate_inj (oneLine_of_mem_shownLines h)
    (oneLine_of_mem_shownLines h') (hshown hne) (hshown hne') heq)

end Explanation

/-! ## Contexts -/

/-- An error that has advice of its own. -/
inductive CatalogError.Advised : CatalogError → Prop where
  | configuration (message : String) : Advised (.configuration message)
  | gitMissing : Advised .gitMissing
  | gitFailed (operation stderr : String) : Advised (.gitFailed operation stderr)
  | cloneFailed (url reason : String) : Advised (.cloneFailed url reason)
  | templateNotFound (template : String) : Advised (.templateNotFound template)
  | versionNotFound (template version : String) : Advised (.versionNotFound template version)
  | invalidIdentifier (value : String) : Advised (.invalidIdentifier value)

/-- A cause of which no more is known than its texts. -/
inductive Cause.Plain : Cause → Prop where
  | questionConflict (file : String) (sections : List String) :
      Plain (.catalog (.questionConflict file sections))
  | markup (fault : Yaml.Fault) : Plain (.catalog (.markup fault))
  | other (message : String) : Plain (.catalog (.other message))
  | disk (e : DiskError) : Plain (.disk e)
  | message (text : String) : Plain (.message text)

namespace Failure

/-- Contexts are put around what there was, the last of them outermost. -/
theorem foldl_within (contexts : List String) (f : Failure) :
    contexts.foldl within f = ⟨contexts.reverse ++ f.contexts, f.cause⟩ := by
  induction contexts generalizing f with
  | nil => rfl
  | cons context contexts ih =>
    rw [List.foldl_cons, ih, List.reverse_cons, List.append_assoc]
    rfl

/-- How a cause is explained that came in some contexts, the outermost last. -/
inductive Explained (contexts : List String) : Cause → Explanation → Prop where
  /-- An error with advice is kept, and the contexts change nothing. -/
  | advised {e : CatalogError} : e.Advised → (ofError e).explain.error = e →
      Explained contexts (.catalog e) (ofError e).explain
  /-- A configuration file that cannot be read, whatever the contexts. -/
  | settings (text : String) : Explained contexts (.settings text)
      ⟨.configuration text, some "Check the TOML syntax of the file passed with --config", none⟩
  /-- Of anything else all texts are shown, from the outermost context to the innermost cause. -/
  | plain {cause : Cause} : cause.Plain → Explained contexts cause
      ⟨.other ("\n".intercalate (Explanation.shownLines (contexts.reverse ++ cause.layers))),
        none, none⟩

/-- Every cause is explained so, whatever contexts were put around it one after the other. -/
theorem explained (contexts : List String) (cause : Cause) :
    Explained contexts cause (contexts.foldl within (ofCause cause)).explain := by
  have hplain (h : cause.Plain) : Explained contexts cause
      ⟨.other (Explanation.withCauses (contexts.reverse ++ cause.layers)), none, none⟩ := by
    rw [Explanation.withCauses_eq]
    exact .plain h
  rw [foldl_within, ofCause, List.append_nil]
  cases cause with
  | settings text => exact .settings text
  | disk e => exact hplain (.disk e)
  | message text => exact hplain (.message text)
  | catalog e =>
    cases e with
    | configuration message => exact .advised (.configuration message) rfl
    | gitMissing => exact .advised .gitMissing rfl
    | gitFailed operation stderr => exact .advised (.gitFailed operation stderr) rfl
    | cloneFailed url reason => exact .advised (.cloneFailed url reason) rfl
    | templateNotFound template => exact .advised (.templateNotFound template) rfl
    | versionNotFound template version => exact .advised (.versionNotFound template version) rfl
    | invalidIdentifier value => exact .advised (.invalidIdentifier value) rfl
    | questionConflict file sections => exact hplain (.questionConflict file sections)
    | markup fault => exact hplain (.markup fault)
    | other message => exact hplain (.other message)

end Failure

end TemplateCatalog
