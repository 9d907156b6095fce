import AppLauncher.Proofs.Archive.Packaged

/-!
# Packaged archives and their caches

The questions that an archive can be asked, its cache dropped in between
(`Archive.Question.reply`).  What a packaged archive replies is a function of its stream
(`Archive.Question.reply_packaged`), whatever is cached for it or for others; so dropping caches
changes no reply (`Archive.replies_filter`).  If the stream cannot be indexed, each question that
needs the index fails with the cause, and leaves the store as it is
(`Archive.Question.reply_of_error`): nothing is ever cached (`Archive.indexes_of_error`).
-/

namespace AppLauncher.Archive

/-! ### Questions and replies -/

/-- What an archive is asked. -/
inductive Question where
  | url
  | manifest
  | entries
  | entry (name : String)
  | content (name : String)
  | nestedAll (filter : Entry → Bool)
  | nested (name : String)
  | clearCache

/-- What an archive replies; nested archives are given by their bodies. -/
inductive Reply where
  | url (url : Url)
  | manifest (result : Except ArchiveError (Option Manifest))
  | entries (result : Except ArchiveError (List Entry))
  | entry (result : Except ArchiveError (Option Entry))
  | content (result : Except ArchiveError (Option (List UInt8)))
  | nestedAll (result : Except ArchiveError (List Body))
  | nested (result : Except ArchiveError (Option Body))
  | cleared

namespace Question

/-- Asks an archive. -/
def reply (a : Archive) : Question → Action Reply
  | url => return .url a.url
  | manifest => do return .manifest (← a.manifest.run)
  | entries => do return .entries (← a.entries.run)
  | entry name => do return .entry (← (a.find? name).run)
  | content name => do return .content (← (a.read? name).run)
  | nestedAll filter => do return .nestedAll ((← (a.nestedAll filter).run).map (·.map body))
  | nested name => do return .nested ((← (a.nested? name).run).map (·.map body))
  | clearCache => do
    a.clearCache
    return .cleared

/-- What a packaged archive replies, read off its stream. -/
def replyOf (stream : Stream) : Question → Reply
  | url => .url stream.url
  | manifest => .manifest (stream.index.map (·.manifest))
  | entries => .entries (stream.index.map (·.entries))
  | entry name => .entry (stream.index.map fun index => (index.find? name).map (·.entry))
  | content name => .content (stream.index.map fun index =>
      ((index.find? name).filter (!·.entry.isDirectory)).map (·.dataIn stream.data))
  | nestedAll filter => .nestedAll (stream.index.map fun index =>
      (index.items.filter fun item => filter item.entry).map fun item =>
        .packaged (stream.nested item))
  | nested name => .nested (stream.index.map fun index =>
      (index.findLoosely? (Text.dropSlashes name)).map fun item => .packaged (stream.nested item))
  | clearCache => .cleared

/-- Whether the cache is dropped. -/
def isClear : Question → Bool
  | clearCache => true
  | _ => false

/-- Whether a question needs the index of the archive. -/
def needsIndex : Question → Bool
  | url | clearCache => false
  | _ => true

end Question

namespace Reply

/-- Whether this is the reply to dropping the cache. -/
def isCleared : Reply → Bool
  | cleared => true
  | _ => false

/-- Why a question has failed, if it has. -/
def fault? : Reply → Option ArchiveError
  | manifest (.error cause) | entries (.error cause) | entry (.error cause)
  | content (.error cause) | nestedAll (.error cause) | nested (.error cause) => some cause
  | _ => none

end Reply

/-- Asks an archive one question after the other. -/
def replies (a : Archive) : List Question → Action (List Reply)
  | [] => pure []
  | question :: questions => do
    let reply ← question.reply a
    return reply :: (← replies a questions)

/-! ### Replies do not depend on what is cached -/

variable (id : Nat) (stream : Stream)

/-- A packaged archive replies what its stream says. -/
lemma Question.reply_packaged (question : Question) (s : Store) :
    (question.reply (packaged id stream) s).1 = question.replyOf stream := by
  cases question with
  | url | clearCache => rfl
  | manifest => exact congrArg Reply.manifest (manifest_packaged id stream s)
  | entries => exact congrArg Reply.entries (entries_packaged id stream s)
  | entry name => exact congrArg Reply.entry (find?_packaged id stream s name)
  | content name => exact congrArg Reply.content (read?_packaged id stream s name)
  | nestedAll filter =>
    refine congrArg Reply.nestedAll ?_
    show ((packaged id stream).nestedAll filter s).1.map (·.map body) = _
    cases hindex : stream.index with
    | error cause =>
      rw [nestedAll_packaged_error id stream s hindex]
      rfl
    | ok index =>
      obtain ⟨views, hviews, hbodies⟩ := nestedAll_packaged id stream s hindex filter
      rw [hviews]
      exact congrArg Except.ok hbodies
  | nested name =>
    refine congrArg Reply.nested ?_
    obtain ⟨r, t, ht, hr, -⟩ := nested?_spec (packaged id stream) name s
    show ((packaged id stream).nested? name s).1.map (·.map body) = _
    rw [ht]
    exact hr

/-- A packaged archive replies to each question what its stream says. -/
lemma replies_packaged (questions : List Question) (s : Store) :
    ((packaged id stream).replies questions s).1 = questions.map (·.replyOf stream) := by
  induction questions generalizing s with
  | nil => rfl
  | cons question questions ih =>
    unfold replies
    rw [Action.run_bind, Action.run_bind, List.map_cons, ← ih,
      ← question.reply_packaged id stream s]
    rfl

/-- Dropping the cache of a packaged archive in between changes none of its other replies. -/
lemma replies_filter (questions : List Question) (s : Store) :
    ((packaged id stream).replies questions s).1.filter (!·.isCleared) =
      ((packaged id stream).replies (questions.filter (!·.isClear)) s).1 := by
  have hcleared : ∀ question : Question,
      (question.replyOf stream).isCleared = question.isClear := by
    intro question
    cases question <;> rfl
  rw [replies_packaged, replies_packaged, List.filter_map]
  exact congrArg _ (List.filter_congr fun question _ => congrArg (!·) (hcleared question))

/-! ### Archives without an index -/

variable {id stream} {s : Store} {cause : ArchiveError}

/-- If the stream cannot be indexed, a question that needs the index fails and changes nothing. -/
lemma Question.reply_of_error (h : stream.index = .error cause) {question : Question}
    (hneeds : question.needsIndex = true) :
    (question.reply (packaged id stream) s).1.fault? = some cause ∧
      (question.reply (packaged id stream) s).2 = s := by
  have hfails : ∀ {α : Type} (f : Index → Attempt ArchiveError α),
      (indexOf id stream >>= f) s = (.error cause, s) :=
    fun f => Attempt.run_bind_error (indexOf_of_error h) f
  refine ⟨?_, ?_⟩
  · rw [reply_packaged]
    cases question with
    | url | clearCache => cases hneeds
    | _ =>
      dsimp only [replyOf]
      rw [h]
      rfl
  · cases question with
    | url | clearCache => cases hneeds
    | _ => exact congrArg Prod.snd (hfails _)

/-- If the stream cannot be indexed, nothing is cached whatever is asked. -/
lemma indexes_of_error (h : stream.index = .error cause) (questions : List Question)
    {key : Nat} {cell : Stream.Indexed}
    (hcell : ((packaged id stream).replies questions s).2.indexes.get? key = some cell) :
    s.indexes.get? key = some cell := by
  induction questions generalizing s with
  | nil => exact hcell
  | cons question questions ih =>
    have hafter := ih (s := (question.reply (packaged id stream) s).2) hcell
    cases hneeds : question.needsIndex with
    | true => rwa [(question.reply_of_error h hneeds).2] at hafter
    | false =>
      cases question with
      | url => exact hafter
      | clearCache =>
        have herased : (s.indexes.erase id).get? key = some cell := hafter
        rw [Table.get?_erase] at herased
        split at herased
        · cases herased
        · exact herased
      | _ => cases hneeds

end AppLauncher.Archive
