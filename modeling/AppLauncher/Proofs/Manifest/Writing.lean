import AppLauncher.Proofs.Manifest.Reading
import AppLauncher.Proofs.Table
import AppLauncher.Proofs.Text.Lines
import AppLauncher.Proofs.Text.Margins
import AppLauncher.Proofs.Text.Utf8

/-!
# Writing manifests

A manifest is written as lines: the main attributes, then each section after blank lines and a line
that names it.  The value of an attribute may be broken anywhere, and what follows a break stands on
a line of its own.  Reading undoes this (`parse_write`), whatever breaks and line ends are chosen.

The proof goes through the lines in the order of the document.  An attribute with all its lines adds
itself to the current section (`Reading.foldl_field`), a section closes the one before it and leaves
itself current (`Reading.foldl_section`), and so the last section is part of the manifest when the
reading is closed (`Reading.close_foldl_sections`).
-/

namespace AppLauncher

namespace Manifest

/-! ### What is written -/

/-- An attribute to be written, with its value broken into pieces.  Even its name may be empty. -/
structure Field where
  name : String
  /-- The part of the value that stands on the line of the name. -/
  first : List Char
  /-- The parts of the value that follow, each on its own line. -/
  rest : List (List Char)
  trim_name : Text.trim name.toList = name.toList
  colon_not_mem : ':' ∉ name.toList
  onOneLine_name : Text.OnOneLine name.toList
  flush_value : Text.Flush (first ++ rest.flatten)
  onOneLine_value : Text.OnOneLine (first ++ rest.flatten)

namespace Field

/-- The value of an attribute. -/
def value (f : Field) : String := String.ofList (f.first ++ f.rest.flatten)

/-- The lines of an attribute. -/
def lines (f : Field) : List (List Char) :=
  (f.name.toList ++ ':' :: ' ' :: f.first) :: f.rest.map fun piece => ' ' :: piece

end Field

/-- Attributes to be written, whose names differ in more than case. -/
structure Block where
  fields : List Field
  distinct : fields.Pairwise fun f g => Text.sameIgnoringCase f.name g.name = false

namespace Block

/-- The attributes of a block. -/
def attributes (b : Block) : Attributes := ⟨b.fields.map fun f => (f.name, f.value)⟩

/-- The lines of a block. -/
def lines (b : Block) : List (List Char) := b.fields.flatMap Field.lines

end Block

/-- A section to be written. -/
structure Section where
  /-- How many blank lines stand before the section besides the one that has to. -/
  blanks : Nat
  name : String
  block : Block
  flush_name : Text.Flush name.toList
  onOneLine_name : Text.OnOneLine name.toList

/-- The lines of a section. -/
def Section.lines (s : Section) : List (List Char) :=
  List.replicate (s.blanks + 1) [] ++
    ((sectionAttribute.toList ++ ':' :: ' ' :: s.name.toList) :: s.block.lines)

/-- A manifest to be written, whose sections have different names. -/
structure Document where
  main : Block
  sections : List Section
  distinct : (sections.map Section.name).Nodup

namespace Document

/-- The manifest that a document describes. -/
def manifest (d : Document) : Manifest where
  main := d.main.attributes
  sections := ⟨d.sections.map fun s => (s.name, s.block.attributes), by
    simpa [Function.comp_def] using d.distinct⟩

/-- The lines of a document. -/
def lines (d : Document) : List (List Char) := d.main.lines ++ d.sections.flatMap Section.lines

/-- A document as it is written, with the given line ends. -/
def write (d : Document) (ends : Nat → Text.LineEnd) : List UInt8 :=
  Text.Utf8.encode (Text.joinLines ends d.lines)

end Document

/-! ### Reading the lines of a section -/

namespace Reading

/-- Continuations are added to the attribute listed last. -/
lemma foldl_continuations (r : Reading) (l : List (String × String)) (name : String)
    (value : List Char) (pieces : List (List Char)) :
    (pieces.map fun piece => ' ' :: piece).foldl line
        (r.withAttributes ⟨l ++ [(name, String.ofList value)]⟩) =
      r.withAttributes ⟨l ++ [(name, String.ofList (value ++ pieces.flatten))]⟩ := by
  induction pieces generalizing value with
  | nil => simp
  | cons piece pieces ih =>
    have hextend : (r.withAttributes ⟨l ++ [(name, String.ofList value)]⟩).line (' ' :: piece) =
        r.withAttributes ⟨l ++ [(name, String.ofList (value ++ piece))]⟩ := by
      rw [line_continuation, extend_eq, withAttributes_withAttributes, attributes_withAttributes,
        Attributes.appendToLast, Attributes.extendLast_concat, String.ofList_append]
    rw [List.map_cons, List.foldl_cons, hextend, ih, List.flatten_cons, List.append_assoc]

/-- The first line of an attribute sets the first part of its value. -/
lemma line_field (r : Reading) (f : Field) :
    r.line (f.name.toList ++ ':' :: ' ' :: f.first) = r.assign f.name (String.ofList f.first) := by
  have hspace : f.name.toList.head? ≠ some ' ' := by
    intro hspace
    obtain ⟨rest, hname⟩ := List.head?_eq_some_iff.mp hspace
    have hflush := Text.flush_of_trim f.trim_name
    rw [hname, Text.flush_cons_iff] at hflush
    revert hflush
    decide
  have hfirst : Text.trimStart (' ' :: f.first) = f.first := f.flush_value.of_append
  rw [line_attribute r hspace f.colon_not_mem, f.trim_name, hfirst, String.ofList_toList]

/-- An attribute of a new name is added at the end of the current section. -/
lemma foldl_field (r : Reading) (f : Field) (hr : r.Settled)
    (hnew : Attributes.Lacks f.name r.attributes.values) :
    f.lines.foldl line r = r.withAttributes ⟨r.attributes.values ++ [(f.name, f.value)]⟩ := by
  rw [Field.lines, List.foldl_cons, line_field, assign_eq r (hr.not_namesSection f.name),
    Attributes.insert, Attributes.place_of_lacks hnew, foldl_continuations]
  rfl

/-- Attributes of new names are added at the end of the current section. -/
lemma foldl_fields (r : Reading) (fields : List Field) (hr : r.Settled)
    (hnew : ∀ f ∈ fields, Attributes.Lacks f.name r.attributes.values)
    (hdistinct : fields.Pairwise fun f g => Text.sameIgnoringCase f.name g.name = false) :
    (fields.flatMap Field.lines).foldl line r =
      r.withAttributes ⟨r.attributes.values ++ fields.map fun f => (f.name, f.value)⟩ := by
  induction fields generalizing r with
  | nil =>
    rw [List.map_nil, List.append_nil]
    exact r.withAttributes_attributes.symm
  | cons f fields ih =>
    obtain ⟨hf, hfields⟩ := List.pairwise_cons.mp hdistinct
    have hfirst := foldl_field r f hr (hnew f List.mem_cons_self)
    rw [List.flatMap_cons, List.foldl_append, hfirst, ih _ (hr.withAttributes _) ?_ hfields]
    · rw [withAttributes_withAttributes, attributes_withAttributes, List.append_assoc,
        List.map_cons, List.singleton_append]
    · intro g hg
      rw [attributes_withAttributes]
      intro e he
      rcases List.mem_append.mp he with hold | hlast
      · exact hnew g (List.mem_cons_of_mem f hg) e hold
      · rw [List.mem_singleton.mp hlast]
        exact hf g hg

/-- A block is read into a section without attributes. -/
lemma foldl_block (r : Reading) (b : Block) (hr : r.Settled) (hempty : r.attributes = .empty) :
    b.lines.foldl line r = r.withAttributes b.attributes := by
  have hnew : ∀ f ∈ b.fields, Attributes.Lacks f.name r.attributes.values := by
    intro f _ e he
    rw [hempty] at he
    cases he
  have hfields := foldl_fields r b.fields hr hnew b.distinct
  rw [hempty] at hfields
  exact hfields

/-! ### Reading sections -/

/-- Blank lines close the current section and open one that has no name yet. -/
lemma foldl_blanks (r : Reading) (blanks : Nat) :
    (List.replicate (blanks + 1) []).foldl line r = ⟨r.close, .unnamed .empty⟩ := by
  induction blanks with
  | zero => rfl
  | succ blanks ih =>
    rw [List.replicate_succ', List.foldl_append, ih]
    rfl

/-- The line that names a section. -/
lemma line_name (m : Manifest) (s : Section) :
    Reading.line ⟨m, .unnamed .empty⟩ (sectionAttribute.toList ++ ':' :: ' ' :: s.name.toList) =
      ⟨m, .named s.name .empty⟩ := by
  have hkey : String.ofList (Text.trim sectionAttribute.toList) = sectionAttribute := by decide
  have hname : Text.trimStart (' ' :: s.name.toList) = s.name.toList := s.flush_name
  have hnames : Reading.NamesSection ⟨m, .unnamed .empty⟩ sectionAttribute :=
    ⟨rfl, Text.sameIgnoringCase_iff.mpr rfl⟩
  rw [line_attribute _ (by decide) (by decide), hkey, hname, String.ofList_toList,
    assign_of_namesSection _ hnames]

/-- A section closes the one before it. -/
lemma foldl_section (r : Reading) (s : Section) :
    s.lines.foldl line r = ⟨r.close, .named s.name s.block.attributes⟩ := by
  have hsettled : Reading.Settled ⟨r.close, .named s.name .empty⟩ := fun a h => by cases h
  rw [Section.lines, List.foldl_append, foldl_blanks, List.foldl_cons, line_name,
    foldl_block _ s.block hsettled rfl]
  rfl

/-- Sections become part of the manifest, one after the other. -/
lemma close_foldl_sections (r : Reading) (sections : List Section) :
    ((sections.flatMap Section.lines).foldl line r).close =
      ⟨r.close.main, sections.foldl (fun t s => t.insert s.name s.block.attributes)
        r.close.sections⟩ := by
  induction sections generalizing r with
  | nil => rfl
  | cons s sections ih =>
    rw [List.flatMap_cons, List.foldl_append, foldl_section, ih]
    rfl

end Reading

/-! ### Reading what was written -/

/-- The line of an attribute is on one line if its parts are. -/
lemma onOneLine_attribute {key value : List Char} (hkey : Text.OnOneLine key)
    (hvalue : Text.OnOneLine value) : Text.OnOneLine (key ++ ':' :: ' ' :: value) := by
  have hbetween : Text.OnOneLine [':', ' '] := by decide
  exact hkey.append (hbetween.append hvalue)

/-- The lines of an attribute hold no line ends. -/
lemma Field.onOneLine_of_mem_lines {f : Field} {l : List Char} (h : l ∈ f.lines) :
    Text.OnOneLine l := by
  rcases List.mem_cons.mp h with rfl | hrest
  · have hfirst : Text.OnOneLine f.first :=
      f.onOneLine_value.of_subset (List.subset_append_left _ _)
    exact onOneLine_attribute f.onOneLine_name hfirst
  · obtain ⟨piece, hpiece, rfl⟩ := List.mem_map.mp hrest
    have hinside : piece ⊆ f.first ++ f.rest.flatten := fun c hc =>
      List.mem_append_right _ (List.mem_flatten.mpr ⟨piece, hpiece, hc⟩)
    have hspace : Text.OnOneLine [' '] := by decide
    exact hspace.append (f.onOneLine_value.of_subset hinside)

/-- The lines of a block hold no line ends. -/
lemma Block.onOneLine_of_mem_lines {b : Block} {l : List Char} (h : l ∈ b.lines) :
    Text.OnOneLine l := by
  obtain ⟨f, -, hl⟩ := List.mem_flatMap.mp h
  exact f.onOneLine_of_mem_lines hl

/-- The lines of a document hold no line ends. -/
lemma Document.onOneLine_of_mem_lines {d : Document} {l : List Char} (h : l ∈ d.lines) :
    Text.OnOneLine l := by
  rcases List.mem_append.mp h with hmain | hsection
  · exact d.main.onOneLine_of_mem_lines hmain
  · obtain ⟨s, -, hl⟩ := List.mem_flatMap.mp hsection
    rcases List.mem_append.mp hl with hblank | hrest
    · rw [List.eq_of_mem_replicate hblank]
      exact ⟨List.not_mem_nil, List.not_mem_nil⟩
    · rcases List.mem_cons.mp hrest with rfl | hblock
      · have hkey : Text.OnOneLine sectionAttribute.toList := by decide
        exact onOneLine_attribute hkey s.onOneLine_name
      · exact s.block.onOneLine_of_mem_lines hblock

/-- Sections with different names stay in order. -/
lemma entries_foldl_insert (sections : List Section) (t : Table String Attributes)
    (hnew : ∀ s ∈ sections, s.name ∉ t.keys) (hdistinct : (sections.map Section.name).Nodup) :
    (sections.foldl (fun t s => t.insert s.name s.block.attributes) t).entries =
      t.entries ++ sections.map fun s => (s.name, s.block.attributes) := by
  induction sections generalizing t with
  | nil => simp
  | cons s sections ih =>
    obtain ⟨hs, hsections⟩ := List.nodup_cons.mp hdistinct
    have hplace : (t.insert s.name s.block.attributes).entries =
        t.entries ++ [(s.name, s.block.attributes)] :=
      Table.place_of_not_mem (hnew s List.mem_cons_self)
    rw [List.foldl_cons, ih _ ?_ hsections, hplace, List.append_assoc, List.map_cons,
      List.singleton_append]
    intro s' hs' hmem
    rw [Table.keys, hplace, List.map_append, List.mem_append] at hmem
    rcases hmem with hold | hlast
    · exact hnew s' (List.mem_cons_of_mem s hs') hold
    · have hname : s'.name = s.name := by simpa using hlast
      exact hs (hname ▸ List.mem_map_of_mem hs')

/-- Reading undoes writing. -/
theorem parse_write (d : Document) (ends : Nat → Text.LineEnd) :
    parse (d.write ends) = d.manifest := by
  have hlines : Text.lines (Text.joinLines ends d.lines) = d.lines := by
    refine Text.lines_joinLines ends (fun l hl => (d.onOneLine_of_mem_lines hl).1) ?_
    intro i l hl _ hlast
    exact (d.onOneLine_of_mem_lines (List.mem_of_getElem? hl)).2 (List.mem_of_getLast? hlast)
  have hmain : d.main.lines.foldl Reading.line .start = ⟨⟨d.main.attributes, .empty⟩, .main⟩ :=
    Reading.foldl_block .start d.main (fun a h => by cases h) rfl
  unfold parse Document.write ofLines
  rw [Text.Utf8.decode_encode, hlines, Document.lines, List.foldl_append, hmain,
    Reading.close_foldl_sections]
  have hsections := entries_foldl_insert d.sections .empty (fun s _ hs => by cases hs) d.distinct
  unfold Document.manifest
  rw [Manifest.mk.injEq]
  exact ⟨rfl, Table.ext hsections⟩

/-- A main attribute that is broken in its value, and a section. -/
def sampleDocument : Document where
  main := ⟨[⟨"Start-Class", "com.exa".toList, ["mple.App".toList], by decide, by decide,
    by decide, by decide, by decide⟩], by decide⟩
  sections := [⟨1, "com/", ⟨[⟨"Sealed", "true".toList, [], by decide, by decide, by decide,
    by decide, by decide⟩], by decide⟩, by decide, by decide⟩]
  distinct := by decide

/-- The sample as it is written, and read again. -/
theorem parse_write_sampleDocument :
    sampleDocument.write (fun _ => .returnFeed) = Text.Utf8.encode
      "Start-Class: com.exa\r\n mple.App\r\n\r\n\r\nName: com/\r\nSealed: true\r\n".toList ∧
    parse (sampleDocument.write fun _ => .returnFeed) = sampleDocument.manifest := by
  refine ⟨?_, parse_write sampleDocument _⟩
  decide +kernel

end Manifest

end AppLauncher
