import ExtensionAdmin.Proofs.Xml.Building

/-! What is left of a document when its text is cut off. A scan of the first part of a text is in
the state in which the scan of the whole text goes on. All nodes outside of open elements stay where
they are from then on. So what the first part alone is read as, if it is a document at all, is the
beginning of the whole document, or ends in the beginning of a text of it. -/

namespace ExtensionAdmin.Xml

open Fallible (bind_eq_ok)

/-- A text that the end of the input cuts off is one token, and so is the whole text. -/
theorem text_cut {seen : List Char} (nonempty : seen ≠ []) (cs : List Char) :
    ∃ more rest, (scanFrom (.text seen) cs).tokens = .text (seen.reverse ++ more) :: rest := by
  induction cs generalizing seen with
  | nil => exact ⟨[], [], by simp [scanFrom, Mode.finish, nonempty]⟩
  | cons c cs ih =>
    by_cases markup : c = '<'
    · exact ⟨[], (scanFrom .opened cs).tokens, by
        simp [scanFrom, Mode.step, markup, nonempty, Scan.cons]⟩
    · obtain ⟨more, rest, scanned⟩ := ih (List.cons_ne_nil c seen)
      exact ⟨c :: more, rest, by simp [scanFrom, Mode.step, markup, scanned]⟩

theorem closing_cut (seen cs : List Char) :
    ∃ more rest, (scanFrom (.closing seen) cs).tokens = .close (seen.reverse ++ more) :: rest := by
  induction cs generalizing seen with
  | nil => exact ⟨[], [], by simp [scanFrom, Mode.finish]⟩
  | cons c cs ih =>
    by_cases ended : c = '>'
    · exact ⟨[], (scanFrom .fresh cs).tokens, by simp [scanFrom, Mode.step, ended, Scan.cons]⟩
    · obtain ⟨more, rest, scanned⟩ := ih (c :: seen)
      exact ⟨c :: more, rest, by simp [scanFrom, Mode.step, ended, scanned]⟩

theorem attach_roots (b : Builder) (n : Node) : b.roots <:+ (b.attach n).roots := by
  unfold Builder.attach
  cases b.frames <;> simp

theorem attach_frames {b : Builder} {n : Node} (outside : (b.attach n).frames = []) :
    b.frames = [] := by
  unfold Builder.attach at outside
  split at outside
  · assumption
  · cases outside

theorem push_roots {b next : Builder} {e : Event} (pushed : b.push e = .ok next) :
    b.roots <:+ next.roots := by
  cases e with
  | start name attributes =>
    cases pushed
    exact List.suffix_refl _
  | empty name attributes =>
    cases pushed
    exact attach_roots b _
  | close written =>
    obtain ⟨f, frames, -, rfl⟩ := Builder.close_eq_ok pushed
    exact attach_roots { b with frames } f.element
  | text content =>
    cases pushed
    exact attach_roots b _

/-- No token changes the nodes that stand outside of open elements; it can only add one. -/
theorem take_roots {b next : Builder} {t : Token} (taken : b.take t = .ok next) :
    b.roots <:+ next.roots := by
  obtain ⟨made, event, taken⟩ := bind_eq_ok.mp taken
  cases made with
  | none =>
    cases taken
    exact List.suffix_refl _
  | some e => exact push_roots taken

theorem foldlM_roots {ts : List Token} {b last : Builder}
    (taken : ts.foldlM Builder.take b = .ok last) : b.roots <:+ last.roots := by
  induction ts generalizing b with
  | nil =>
    cases taken
    exact List.suffix_refl _
  | cons t ts ih =>
    obtain ⟨next, here, later⟩ := bind_eq_ok.mp taken
    exact (take_roots here).trans (ih later)

theorem into_roots {s : Scan} {b : Builder} {tops : List Node}
    (read : s.into b = .ok (.document tops)) : b.roots.reverse <+: tops := by
  obtain ⟨last, taken, -, -, same⟩ := Scan.into_eq_ok.mp read
  cases same
  exact List.reverse_prefix.mpr (foldlM_roots taken)

theorem into_cons {s : Scan} {b : Builder} {tops : List Node} {t : Token} {ts : List Token}
    (tokens : s.tokens = t :: ts) (read : s.into b = .ok (.document tops)) :
    ∃ next, b.take t = .ok next ∧ next.roots.reverse <+: tops := by
  obtain ⟨last, taken, -, -, same⟩ := Scan.into_eq_ok.mp read
  cases same
  rw [tokens, List.foldlM_cons] at taken
  obtain ⟨next, here, later⟩ := bind_eq_ok.mp taken
  exact ⟨next, here, List.reverse_prefix.mpr (foldlM_roots later)⟩

/-- The beginning of a list of nodes: the first of them, and perhaps the beginning of the text that
comes next. -/
def Beginning (ns tops : List Node) : Prop :=
  ns <+: tops ∨ ∃ before short long, ns = before ++ [.text short] ∧
    before ++ [.text long] <+: tops ∧ short.toList <+: long.toList

/-- A text outside of all elements that is cut off is the beginning of that text, or blank. -/
theorem text_beginning {b short long : Builder} {seen more : List Char} {tops : List Node}
    (cut : b.take (.text seen) = .ok short) (outside : short.frames = [])
    (full : b.take (.text (seen ++ more)) = .ok long) (kept : b.roots.reverse <+: tops)
    (left : long.roots.reverse <+: tops) : Beginning short.roots.reverse tops := by
  obtain ⟨made, event, cut⟩ := bind_eq_ok.mp cut
  obtain ⟨whole, eventWhole, full⟩ := bind_eq_ok.mp full
  obtain ⟨cs, begun, rfl⟩ := textEvent?_eq_ok event
  obtain ⟨ds, read, rfl⟩ := textEvent?_eq_ok eventWhole
  obtain ⟨es, rfl⟩ := unescape_prefix begun read
  -- If what is left of the text is blank, it makes no node. Otherwise the whole text is not blank
  -- either, and both make one in the same place.
  by_cases blank : Text.allBlank cs = true
  · rw [if_pos blank] at cut
    cases cut
    exact .inl kept
  · have visible : ¬Text.allBlank (cs ++ es) = true := by
      rw [Text.allBlank, List.all_append, Bool.and_eq_true]
      exact fun both => blank both.1
    rw [if_neg blank] at cut
    rw [if_neg visible] at full
    cases cut
    cases full
    have bare := attach_frames outside
    simp only [Builder.attach, bare, List.reverse_cons] at left ⊢
    exact .inr ⟨b.roots.reverse, _, _, rfl, left, by simp⟩

/-- Which element a closing tag closes does not depend on what is written in it. -/
theorem close_unique {b short long : Builder} {written other : String}
    (cut : b.close written = .ok short) (full : b.close other = .ok long) : short = long := by
  obtain ⟨f, frames, opened, rfl⟩ := Builder.close_eq_ok cut
  obtain ⟨g, others, again, rfl⟩ := Builder.close_eq_ok full
  obtain ⟨rfl, rfl⟩ := List.cons.inj (opened.symm.trans again)
  rfl

theorem instruction_skipped {seen : List Char} {b last : Builder}
    (taken : (Mode.instruction seen).finish.tokens.foldlM Builder.take b = .ok last) : b = last := by
  simp only [Mode.finish] at taken
  unfold instructionToken at taken
  split at taken
  case h_1 t made =>
    split at made
    · cases made
      exact Except.ok.inj taken
    · cases made
  case h_2 => exact Except.ok.inj taken

/-- What the end of the input leaves, in a mode in which the whole text goes on. -/
theorem finish_beginning {m : Mode} {b : Builder} {cs : List Char} {ns tops : List Node}
    (cut : m.finish.into b = .ok (.document ns))
    (whole : (scanFrom m cs).into b = .ok (.document tops)) : Beginning ns tops := by
  have kept := into_roots whole
  obtain ⟨last, taken, faultless, outside, same⟩ := Scan.into_eq_ok.mp cut
  cases same
  -- The end of the input completes a text, a closing tag or an instruction, and drops a lone `<`.
  cases m with
  | text seen =>
    by_cases empty : seen = []
    · subst empty
      cases taken
      exact .inl kept
    · obtain ⟨more, rest, tokens⟩ := text_cut empty cs
      obtain ⟨long, full, left⟩ := into_cons tokens whole
      have short : b.take (.text seen.reverse) = .ok last := by
        simpa [Mode.finish, empty] using taken
      exact text_beginning short outside full kept left
  | opened =>
    cases taken
    exact .inl kept
  | closing seen =>
    obtain ⟨more, rest, tokens⟩ := closing_cut seen cs
    obtain ⟨long, full, left⟩ := into_cons tokens whole
    have short : b.take (.close seen.reverse) = .ok last := by
      simpa [Mode.finish] using taken
    have same : last = long := close_unique short full
    exact .inl (same ▸ left)
  | instruction seen => exact .inl (instruction_skipped taken ▸ kept)
  | _ => simp [Mode.finish] at faultless

/-- The induction is on what is left of the text: the scans of the part and of the whole take the
same tokens until it ends. -/
theorem scan_beginning {cs rest : List Char} {m : Mode} {b : Builder} {ns tops : List Node}
    (cut : (scanFrom m cs).into b = .ok (.document ns))
    (whole : (scanFrom m (cs ++ rest)).into b = .ok (.document tops)) : Beginning ns tops := by
  induction cs generalizing m b with
  | nil => exact finish_beginning cut whole
  | cons c cs ih =>
    rw [List.cons_append] at whole
    cases step : m.step c with
    | «continue» next =>
      simp only [scanFrom, step] at cut whole
      exact ih cut whole
    | complete t next =>
      simp only [scanFrom, step, Scan.cons_into] at cut whole
      obtain ⟨later, taken, cut⟩ := bind_eq_ok.mp cut
      obtain ⟨again, same, whole⟩ := bind_eq_ok.mp whole
      obtain rfl : later = again := Except.ok.inj (taken.symm.trans same)
      exact ih cut whole
    | fail f =>
      simp only [scanFrom, step] at cut
      cases cut

theorem withoutMark_prefix {cs ds : List Char} (begins : cs <+: ds) :
    withoutMark cs <+: withoutMark ds := by
  obtain ⟨rest, rfl⟩ := begins
  cases cs with
  | nil => exact List.nil_prefix
  | cons c cs =>
    by_cases mark : c = '\uFEFF'
    · simp [withoutMark, mark]
    · simp [withoutMark, mark]

theorem Node.read_document {cs : List Char} {n : Node} (read : Node.read cs = .ok n) :
    ∃ tops, n = .document tops := by
  rw [Node.read_eq] at read
  obtain ⟨last, -, -, -, same⟩ := Scan.into_eq_ok.mp read
  exact ⟨_, same⟩

/-- A document whose text is cut off is no document any more, or is the beginning of what it was. -/
theorem Node.read_beginning {cs ds : List Char} {ns tops : List Node} (begins : cs <+: ds)
    (cut : Node.read cs = .ok (.document ns)) (whole : Node.read ds = .ok (.document tops)) :
    Beginning ns tops := by
  obtain ⟨rest, same⟩ := withoutMark_prefix begins
  rw [Node.read_eq, scan] at cut whole
  rw [← same] at whole
  exact scan_beginning cut whole

/-- Of a document of one element that element is left, or nothing. -/
theorem Beginning.alone {ns : List Node} {name : String} {attributes : List Attribute}
    {children : List Node} (begins : Beginning ns [.element name attributes children]) :
    ns = [] ∨ ns = [.element name attributes children] := by
  rcases begins with first | ⟨before, short, long, -, first, -⟩
  · rcases List.prefix_cons_iff.mp first with empty | ⟨rest, rfl, nothing⟩
    · exact .inl empty
    · exact .inr (by rw [List.prefix_nil.mp nothing])
  · have member : Node.text long ∈ [Node.element name attributes children] :=
      first.subset (by simp)
    simp at member

end ExtensionAdmin.Xml
