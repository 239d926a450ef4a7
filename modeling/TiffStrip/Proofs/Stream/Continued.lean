import TiffStrip.Proofs.Stream.Range

namespace TiffStrip.Stream

/-- The second stream goes on where the first ends; in a strict comparison it ends there too. If
only one of them shows its buffer, all of the first can be addressed. -/
structure Continues (strict : Prop) (s t : Stream) : Prop where
  name : s.name = t.name
  contents : s.contents.toList <+: t.contents.toList
  whole : strict → s.size = t.size
  shown : s.mapped = t.mapped ∨ s.size < Address.limit

namespace Continues

variable {strict : Prop} {s t s' t' : Stream}

theorem size_le (h : s.Continues strict t) : s.size ≤ t.size :=
  h.contents.length_le

theorem of_rewound (h : s.Continues strict t) (hs : s'.rewound = s.rewound)
    (ht : t'.rewound = t.rewound) : s'.Continues strict t' := by
  have hrewound : s'.rewound.Continues strict t'.rewound := by
    rw [hs, ht]
    exact ⟨h.name, h.contents, h.whole, h.shown⟩
  exact ⟨hrewound.name, hrewound.contents, hrewound.whole, hrewound.shown⟩

/-- A range inside the first stream holds the same in the second. -/
theorem slice (h : s.Continues strict t) {offset length : Nat}
    (hinside : offset + length ≤ s.size) : s.slice offset length = t.slice offset length := by
  obtain ⟨rest, hrest⟩ := h.contents
  have hfirst : s.Holds 0 s.contents.toList := ⟨[], [], by simp, rfl⟩
  have hsecond : t.Holds 0 s.contents.toList := ⟨[], rest, by simp [hrest], rfl⟩
  have hlength : offset + length ≤ s.contents.toList.length := hinside
  have heq := (hfirst.slice hlength).trans (hsecond.slice hlength).symm
  rwa [Nat.zero_add] at heq

end Continues

variable {strict : Prop}

/-- Ranges agree: one that the first stream has is the same in the second, and in a strict
comparison one that it does not have is refused by the second in the same words. -/
theorem agrees_readExactAt (offset length : Nat) :
    Agrees strict (Continues strict) (readExactAt offset length) (readExactAt offset length) := by
  intro s t hst hcounts
  refine ⟨?_, hst.of_rewound (rewound_after_readExactAt s _ _) (rewound_after_readExactAt t _ _)⟩
  rw [answer_readExactAt] at hcounts
  rw [answer_readExactAt, answer_readExactAt]
  refine guarded_eq hcounts (fun hinside => ?_) fun hstrict => ?_
  · exact ⟨⟨hinside.1, Nat.le_trans hinside.2 hst.size_le⟩, hst.slice hinside.2⟩
  · rw [hst.whole hstrict]
    exact ⟨id, rfl⟩

end TiffStrip.Stream
