import AppLauncher.Proofs.Archive.Forgetting
import AppLauncher.Proofs.Loader.Calls

/-!
# Dropping caches does not show

Caches can be dropped at any time: the replies of a packaged archive stay the same, and the answers
of a chain stay alike (`Loader.clearing_does_not_show`).  For a chain this needs urls that count as
one to lead to the same thing, because a loader connects to all of its urls in order to drop the
caches: where `lib.jar/` does not open before `lib.jar` is open, dropping caches opens it
(`Loader.clearing_shows_respelling`).

The calls are compared by a simulation.  One run answers all calls, the other one those that do not
drop caches; a call of the first kind is idle, and the others do the same in both runs.
-/

namespace AppLauncher.Loader

/-- Whether a call drops caches. -/
def Call.isClear : Call → Bool
  | .ask (.clearCache _) => true
  | _ => false

/-- Whether this is the answer to a call that drops caches. -/
def Answer.isCleared : Answer → Bool
  | .cleared => true
  | _ => false

/-- It is the calls that drop caches that are answered so. -/
lemma Call.isCleared_answer (call : Call) (loader : Loader) (s : Store) :
    (call.answer loader s).1.isCleared = call.isClear := by
  cases call with
  | ask request =>
    cases request with
    | definePackage depth name manifest url =>
      show ((loader.ancestor depth).definePackage name manifest url s).1.isCleared = false
      unfold definePackage
      cases loader.ancestor depth <;> rfl
    | _ => rfl
  | _ => rfl

variable {start s t : Store} {loader : Loader}

/-- Calls do the same whether caches are dropped in between or not. -/
lemma forall₂_answers_filter (hu : loader.Unambiguous start.files)
    (h : Store.Resembles .respelled loader.reach start s t) (calls : List Call) :
    List.Forall₂ (Answer.Alike .respelled start.files)
      (loader.answers (calls.filter (!·.isClear)) s).1
      ((loader.answers calls t).1.filter (!·.isCleared)) := by
  induction calls generalizing s t with
  | nil => exact .nil
  | cons call calls ih =>
    have hrun : (loader.answers (call :: calls) t).1 =
        (call.answer loader t).1 :: (loader.answers calls (call.answer loader t).2).1 := rfl
    rw [hrun]
    cases hclear : call.isClear with
    | true =>
      rw [List.filter_cons_of_neg (by rw [hclear]; decide),
        List.filter_cons_of_neg (by rw [call.isCleared_answer, hclear]; decide)]
      refine ih (h.idle_right ?_)
      cases call with
      | ask request =>
        cases request with
        | clearCache depth =>
          exact idles_clearCache hu (fun _ _ => reach_of_ancestor) h.right
        | _ => cases hclear
      | _ => cases hclear
    | false =>
      obtain ⟨hstores, halike⟩ :=
        (Padding.refl loader.reach start loader).answer (fun _ _ h => h) h call
      rw [List.filter_cons_of_pos (by rw [hclear]; decide),
        List.filter_cons_of_pos (by rw [call.isCleared_answer, hclear]; decide)]
      exact .cons halike (ih hstores)

/-- Dropping caches does not show.  A packaged archive gives the same replies, whatever has been
cached, and if its stream cannot be indexed then each question that needs the index fails and
nothing is cached.  The answers of a chain are alike as long as files stay the same, if urls of the
chain that count as one lead to the same thing. -/
theorem clearing_does_not_show (id : Nat) (stream : Stream) (r : Store)
    (questions : List Archive.Question) (hs : start.Undisturbed) (hn : start.Numbered)
    (hu : loader.Unambiguous start.files) (calls : List Call) :
    (((Archive.packaged id stream).replies questions r).1.filter (!·.isCleared) =
        ((Archive.packaged id stream).replies (questions.filter (!·.isClear)) r).1 ∧
      ∀ cause, stream.index = .error cause →
        (∀ question : Archive.Question, question.needsIndex = true →
          (question.reply (.packaged id stream) r).1.fault? = some cause ∧
          (question.reply (.packaged id stream) r).2 = r) ∧
        ∀ key cell, ((Archive.packaged id stream).replies questions r).2.indexes.get? key =
          some cell → r.indexes.get? key = some cell) ∧
      List.Forall₂ (Answer.Alike .respelled start.files)
        (loader.answers (calls.filter (!·.isClear)) start).1
        ((loader.answers calls start).1.filter (!·.isCleared)) :=
  ⟨⟨Archive.replies_filter id stream questions r, fun _ hcause =>
      ⟨fun _ hneeds => Archive.Question.reply_of_error hcause hneeds,
        fun _ _ => Archive.indexes_of_error hcause questions⟩⟩,
    forall₂_answers_filter hu (.refl (.refl hs hn)) calls⟩

/-- The small chain gives the same class after its caches have been dropped, and so does an archive
that cannot be indexed give the same failure. -/
theorem clearing_does_not_show_sampleChain :
    (((Archive.packaged 0 ⟨.artifact ⟨"bad.jar"⟩, [1], none⟩).replies
        [.entries, .clearCache, .manifest] sampleStore).1.filter (!·.isCleared) =
      ((Archive.packaged 0 ⟨.artifact ⟨"bad.jar"⟩, [1], none⟩).replies [.entries, .manifest]
        sampleStore).1) ∧
      List.Forall₂ (Answer.Alike .respelled sampleFiles)
        (sampleChain.answers [.ask (.load 0 "p.A" true), .packages 0] sampleStore).1
        ((sampleChain.answers [.ask (.clearCache 0), .ask (.load 0 "p.A" true),
          .ask (.clearCache 1), .packages 0] sampleStore).1.filter (!·.isCleared)) := by
  have hs : sampleStore.Undisturbed := rfl
  obtain ⟨⟨hreplies, -⟩, hanswers⟩ := clearing_does_not_show 0
    ⟨.artifact ⟨"bad.jar"⟩, [1], none⟩ sampleStore [.entries, .clearCache, .manifest] hs
    (.start sampleFiles 4) unambiguous_sampleChain
    [.ask (.clearCache 0), .ask (.load 0 "p.A" true), .ask (.clearCache 1), .packages 0]
  exact ⟨hreplies, hanswers⟩

/-- The class that is answered to a call comes from this url. -/
def Answer.sourceUrl? : Answer → Option Url
  | .loaded result => resultUrl? result
  | _ => none

/-- Alike classes come from one url. -/
lemma Answer.Alike.sourceUrl? {k : Closeness} {files : FileSystem} {a b : Answer}
    (h : a.Alike k files b) : a.sourceUrl? = b.sourceUrl? := by
  cases h with
  | loaded hresult =>
    cases hresult with
    | error => rfl
    | @ok c d hcd =>
      have hsource := hcd.source
      show Loader.sourceUrl? c.source = Loader.sourceUrl? d.source
      generalize c.source = x at hsource
      generalize d.source = y at hsource
      cases hsource <;> rfl
  | _ => rfl

/-- Dropping caches opens the urls of the chain, and if one of two spellings does not open before
the other one has been opened, a class comes from another archive then. -/
theorem clearing_shows_respelling : ¬List.Forall₂ (Answer.Alike .respelled spellingFiles)
    (spellingChain.answers [.ask (.load 0 "A" false)] (.start spellingFiles 3)).1
    ((spellingChain.answers [.ask (.clearCache 0), .ask (.load 0 "A" false)]
      (.start spellingFiles 3)).1.filter (!·.isCleared)) := by
  intro h
  have hbefore : (spellingChain.answers [.ask (.load 0 "A" false)]
      (.start spellingFiles 3)).1.map Answer.sourceUrl? = [some (.directory ⟨"d"⟩)] := by
    decide +kernel
  have hafter : ((spellingChain.answers [.ask (.clearCache 0), .ask (.load 0 "A" false)]
      (.start spellingFiles 3)).1.filter (!·.isCleared)).map Answer.sourceUrl? =
        [some (.packaged ⟨"lib.jar/"⟩ [])] := by
    decide +kernel
  have hsame := Answer.map_eq_of_alike Answer.Alike.sourceUrl? h
  rw [hbefore, hafter] at hsame
  cases hsame

end AppLauncher.Loader
