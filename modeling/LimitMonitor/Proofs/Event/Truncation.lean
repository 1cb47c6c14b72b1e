import LimitMonitor.Actionpoint.Definition

/-!
# What is kept of an event text

An event text is written to a buffer of thirty-two bytes, character by character, up to the
first one that the buffer refuses. A character takes one to four bytes, so the buffer may
refuse one with up to three bytes to spare, and a later, shorter character would still have
fit.

Nothing is asked of the buffer but that it takes a character exactly if the bytes of the
character fit beside those that it holds, and that a refused character leaves it as it was
(`TextBuffer.Lawful`). Every such buffer keeps what `EventText.truncate` keeps
(`TextBuffer.Lawful.refill_eq`): an opening of the text that fits and that is all of the
text or is followed by a character that does not fit (`Keeps`). There is no longer opening
that fits (`Keeps.longest`).

Main statement: `withEvent_keeps_longest_opening`.
-/

namespace LimitMonitor

/-! ## Openings of a text -/

/-- A text goes on from an opening of it, which therefore ends between two characters. -/
theorem exists_append_eq_iff {opening text : String} :
    (∃ rest, opening ++ rest = text) ↔ opening.toList <+: text.toList := by
  constructor
  · rintro ⟨rest, rfl⟩
    rw [String.toList_append]
    exact List.prefix_append _ _
  · rintro ⟨rest, hrest⟩
    refine ⟨String.ofList rest, String.toList_inj.mp ?_⟩
    rw [String.toList_append, String.toList_ofList, hrest]

/-- An opening takes no more bytes than the text. -/
theorem utf8ByteSize_le_of_isPrefix {opening text : String} (h : opening.toList <+: text.toList) :
    opening.utf8ByteSize ≤ text.utf8ByteSize := by
  obtain ⟨rest, rfl⟩ := exists_append_eq_iff.mpr h
  rw [String.utf8ByteSize_append]
  exact Nat.le_add_right _ _

/-- `kept` is as much of a text as fits in whole characters: an opening of it that fits, and
after which the text ends or goes on with a character that does not fit. -/
structure Keeps (kept text : String) : Prop where
  fits : kept.utf8ByteSize ≤ eventTextCapacity
  stops : kept = text ∨
    ∃ c rest, kept.push c ++ rest = text ∧ eventTextCapacity < (kept.push c).utf8ByteSize

namespace Keeps

variable {kept text opening : String}

/-- What is kept opens the text. -/
theorem isPrefix (h : Keeps kept text) : kept.toList <+: text.toList := by
  rcases h.stops with rfl | ⟨c, rest, rfl, -⟩
  · exact List.prefix_rfl
  · rw [String.toList_append, String.toList_push, List.append_assoc]
    exact List.prefix_append _ _

/-- **What is kept is longest**: an opening of the text that goes on after it takes in the
character that does not fit. -/
theorem longest (h : Keeps kept text) (hopening : opening.toList <+: text.toList)
    (hfits : opening.utf8ByteSize ≤ eventTextCapacity) : opening.toList <+: kept.toList := by
  rcases h.stops with rfl | ⟨c, rest, rfl, hfull⟩
  · exact hopening
  · have hnext : ¬ (kept.push c).toList <+: opening.toList := fun hlong =>
      absurd (Nat.le_trans (utf8ByteSize_le_of_isPrefix hlong) hfits) (Nat.not_le.mpr hfull)
    have hpush : (kept.push c).toList <+: (kept.push c ++ rest).toList :=
      exists_append_eq_iff.mp ⟨rest, rfl⟩
    rcases List.prefix_or_prefix_of_prefix hopening hpush with hshort | hlong
    · rw [String.toList_push] at hshort hnext
      rcases List.prefix_concat_iff.mp hshort with hall | hbefore
      · exact absurd (hall ▸ List.prefix_rfl) hnext
      · exact hbefore
    · exact absurd hlong hnext

/-- **Nothing is kept from the first character on that does not fit.** -/
theorem eq_of_not_fits (h : Keeps kept text) {c : Char} {rest : String}
    (htext : opening.push c ++ rest = text) (hfits : opening.utf8ByteSize ≤ eventTextCapacity)
    (hfull : eventTextCapacity < (opening.push c).utf8ByteSize) : kept = opening := by
  have hother : Keeps opening text := ⟨hfits, Or.inr ⟨c, rest, htext, hfull⟩⟩
  have hle : kept.toList <+: opening.toList := hother.longest h.isPrefix h.fits
  have hge : opening.toList <+: kept.toList := h.longest hother.isPrefix hfits
  exact String.toList_inj.mp (hle.eq_of_length_le hge.length_le)

end Keeps

namespace EventText

/-- The loop: what was written before stays, and as much as fits comes after it. -/
theorem keeps_extend (t : EventText) (cs : List Char) :
    Keeps (t.extend cs).text (t.text ++ String.ofList cs) := by
  induction cs generalizing t with
  | nil => exact ⟨t.fits, Or.inl (by simp [extend])⟩
  | cons c rest ih =>
    have hpush : t.text ++ String.ofList (c :: rest) = t.text.push c ++ String.ofList rest := by
      rw [String.ofList_cons, String.push_eq_append, String.append_assoc]
    rw [hpush]
    by_cases hfits : t.text.utf8ByteSize + c.utf8Size ≤ eventTextCapacity
    · rw [extend, dif_pos hfits]
      exact ih ⟨t.text.push c, _⟩
    · rw [extend, dif_neg hfits]
      refine ⟨t.fits, Or.inr ⟨c, String.ofList rest, rfl, ?_⟩⟩
      rw [String.utf8ByteSize_push]
      exact Nat.not_le.mp hfits

/-- **Truncating a text keeps as much of it as fits.** -/
theorem keeps_truncate (s : String) : Keeps (truncate s).text s := by
  simpa [truncate, empty] using keeps_extend empty s.toList

end EventText

/-! ## Buffers -/

/-- A buffer for a text, by what its operations make of the text that it holds. -/
structure TextBuffer where
  /-- Empty the buffer. -/
  clear : String → String
  /-- Append a character; tells whether the buffer took it. -/
  push : String → Char → Bool × String

namespace TextBuffer

/-- The buffer is empty once it is cleared. It takes a character if the bytes of the
character fit beside those that it holds; otherwise it refuses the character and holds what
it held. -/
structure Lawful (b : TextBuffer) : Prop where
  clear : ∀ held, b.clear held = ""
  push_of_fits : ∀ held c, held.utf8ByteSize + c.utf8Size ≤ eventTextCapacity →
    b.push held c = (true, held.push c)
  push_of_full : ∀ held c, eventTextCapacity < held.utf8ByteSize + c.utf8Size →
    b.push held c = (false, held)

/-- Write characters until one is refused. -/
def write (b : TextBuffer) (held : String) : List Char → String
  | [] => held
  | c :: rest =>
    match b.push held c with
    | (true, held') => b.write held' rest
    | (false, held') => held'

/-- Put a text in the place of the one that the buffer holds. -/
def refill (b : TextBuffer) (held text : String) : String := b.write (b.clear held) text.toList

/-- The buffer that compares the bytes first. -/
def bounded : TextBuffer where
  clear _ := ""
  push held c :=
    if held.utf8ByteSize + c.utf8Size ≤ eventTextCapacity then (true, held.push c)
    else (false, held)

theorem lawful_bounded : bounded.Lawful where
  clear _ := rfl
  push_of_fits _ _ h := if_pos h
  push_of_full _ _ h := if_neg (Nat.not_le.mpr h)

/-- A lawful buffer takes and refuses the characters that `EventText.extend` does. -/
theorem Lawful.write_eq {b : TextBuffer} (h : b.Lawful) (t : EventText) (cs : List Char) :
    b.write t.text cs = (t.extend cs).text := by
  induction cs generalizing t with
  | nil => rfl
  | cons c rest ih =>
    by_cases hfits : t.text.utf8ByteSize + c.utf8Size ≤ eventTextCapacity
    · rw [write, EventText.extend, dif_pos hfits, h.push_of_fits _ _ hfits]
      exact ih ⟨t.text.push c, _⟩
    · rw [write, EventText.extend, dif_neg hfits, h.push_of_full _ _ (Nat.not_le.mp hfits)]

/-- **Every lawful buffer keeps the same of a text**, whatever it held before. -/
theorem Lawful.refill_eq {b : TextBuffer} (h : b.Lawful) (held text : String) :
    b.refill held text = (EventText.truncate text).text := by
  rw [refill, h.clear]
  exact h.write_eq EventText.empty text.toList

end TextBuffer

namespace Actionpoint.Definition

/-- **A definition keeps the longest opening of its event text that fits**, in whole
characters and whatever its text was before. It keeps what a lawful buffer holds once the
text is written to it: all of the text, or an opening of it after which the next character
would not fit. Nothing is kept from the first character on that does not fit, and every
opening of the text that fits opens what is kept. -/
theorem withEvent_keeps_longest_opening {b : TextBuffer} (lawful : b.Lawful) (d : Definition)
    (severity : Severity) (eventId : UInt16) (text : String) :
    let kept := b.refill d.eventText.text text
    (∀ d' : Definition, (d'.withEvent severity eventId text).eventText.text = kept) ∧
    (∃ rest, kept ++ rest = text) ∧
    kept.utf8ByteSize ≤ eventTextCapacity ∧
    (kept = text ∨
      ∃ c rest, kept.push c ++ rest = text ∧ eventTextCapacity < (kept.push c).utf8ByteSize) ∧
    (∀ opening c rest, opening.push c ++ rest = text →
      opening.utf8ByteSize ≤ eventTextCapacity →
      eventTextCapacity < (opening.push c).utf8ByteSize → kept = opening) ∧
    (∀ opening rest, opening ++ rest = text → opening.utf8ByteSize ≤ eventTextCapacity →
      ∃ more, opening ++ more = kept) := by
  intro kept
  have hrefill : kept = (EventText.truncate text).text := lawful.refill_eq _ _
  have hkept : Keeps kept text := hrefill ▸ EventText.keeps_truncate text
  refine ⟨fun d' => hrefill.symm, exists_append_eq_iff.mpr hkept.isPrefix, hkept.fits,
    hkept.stops, fun opening c rest htext hfits hfull => hkept.eq_of_not_fits htext hfits hfull,
    fun opening rest htext hfits => ?_⟩
  have hopening : opening.toList <+: text.toList := exists_append_eq_iff.mp ⟨rest, htext⟩
  exact exists_append_eq_iff.mpr (hkept.longest hopening hfits)

/-- One byte is left, the next character takes two, and the one after it would fit. -/
theorem withEvent_keeps_longest_opening_one :
    TextBuffer.bounded.Lawful ∧
      ((unused.withEvent .info 0 "old").withEvent .critical 7
        "0123456789012345678901234567890é1").eventText.text =
          "0123456789012345678901234567890" := by
  refine ⟨TextBuffer.lawful_bounded, ?_⟩
  obtain ⟨hkept, -, -, -, hstops, -⟩ :=
    withEvent_keeps_longest_opening TextBuffer.lawful_bounded (unused.withEvent .info 0 "old")
      .critical 7 "0123456789012345678901234567890é1"
  rw [hkept (unused.withEvent .info 0 "old")]
  exact hstops "0123456789012345678901234567890" 'é' "1" (by decide) (by decide) (by decide)

end Actionpoint.Definition

end LimitMonitor
