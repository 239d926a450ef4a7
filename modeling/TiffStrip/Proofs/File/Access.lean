import TiffStrip.Proofs.File.Continued

namespace TiffStrip.File

theorem stream_afterAll {stream : Stream} {file : File} (hopen : ofStream stream = .ok file)
    (history : List Request) : (afterAll history file).stream.rewound = stream.rewound := by
  have hopened := reopened_afterAll (genuine_of_ofStream hopen) history
  have hstream : file.stream.rewound = stream.rewound := by
    rw [(ofStream_eq_ok.mp hopen).2.1]
    exact steady_readStructure.view_after stream
  exact (congrArg File.stream hopened).trans hstream

theorem size_afterAll {stream : Stream} {file : File} (hopen : ofStream stream = .ok file)
    (history : List Request) : (afterAll history file).stream.size = stream.size :=
  congrArg Array.size (Stream.contents_eq (stream_afterAll hopen history))

/-- **Access makes no difference.** The same bytes, as many as can be addressed, open or are refused
alike, whether they are only read or may be written and grown, and whether they are shown or copied
out. After any history of requests, failed ones included, every request is answered alike, down to
the range that an error names. The bytes are never written, and no growth is ever asked for. -/
theorem answers_by_any_access {contents : Array UInt8} (hsize : contents.size < Address.limit)
    (name : String) (mode : AccessMode) (growth? : Option Growth) (mapped : Bool) :
    let shared : Stream := { Stream.ofBytes contents with name }
    let stream : Stream := { shared with mode, growth?, mapped }
    (∀ error, ofStream shared = .error error ↔ ofStream stream = .error error) ∧
    ∀ file, ofStream shared = .ok file →
      ∃ other, ofStream stream = .ok other ∧ other.header = file.header ∧
        other.directories = file.directories ∧
        ∀ history,
          let used := afterAll history file
          let usedOther := afterAll history other
          (∀ request, (ask request usedOther).1 = (ask request used).1) ∧
          usedOther.current = used.current ∧ usedOther.stream.rewound = stream := by
  intro shared stream
  have hforth : shared.Continues True stream := ⟨rfl, List.prefix_rfl, fun _ => rfl, .inr hsize⟩
  have hback : stream.Continues True shared := ⟨rfl, List.prefix_rfl, fun _ => rfl, .inr hsize⟩
  refine ⟨fun error => ⟨refused_of_continues hforth, refused_of_continues hback⟩, ?_⟩
  intro file hopen
  obtain ⟨other, hother, hcontinues⟩ := opened_of_continues hforth hopen
  refine ⟨other, hother, hcontinues.header.symm, hcontinues.directories.symm, fun history => ?_⟩
  have hused := serves_continues.afterAll history file other hcontinues
  refine ⟨fun request => ?_, hused.current.symm, stream_afterAll hother history⟩
  exact (serves_continues.ask request _ _ hused).1.symm

theorem answers_by_any_access_sample :
    let shared := sample.1
    let writable : Stream := { shared with mode := .write, growth? := some .zeros }
    let copied : Stream := { shared with mapped := false }
    ∃ file other plain, ofStream shared = .ok file ∧ ofStream writable = .ok other ∧
      ofStream copied = .ok plain ∧
      ∀ history,
        let used := afterAll history file
        (∀ request, (ask request (afterAll history other)).1 = (ask request used).1) ∧
        (∀ request, (ask request (afterAll history plain)).1 = (ask request used).1) ∧
        (afterAll history other).stream.rewound = writable := by
  intro shared writable copied
  have hsize : sample.1.contents.size < Address.limit := by decide +kernel
  have hopens : (ofStream sample.1).toOption.isSome = true := by decide +kernel
  obtain ⟨file, hfile⟩ := Option.isSome_iff_exists.mp hopens
  have hopen := except_toOption_eq_some.mp hfile
  obtain ⟨_, hwritable⟩ := answers_by_any_access hsize "memory" .write (some .zeros) true
  obtain ⟨_, hcopied⟩ := answers_by_any_access hsize "memory" .read none false
  obtain ⟨other, hother, _, _, hwritten⟩ := hwritable file hopen
  obtain ⟨plain, hplain, _, _, hread⟩ := hcopied file hopen
  refine ⟨file, other, plain, hopen, hother, hplain, fun history => ?_⟩
  obtain ⟨hanswers, _, hstream⟩ := hwritten history
  exact ⟨hanswers, (hread history).1, hstream⟩

end TiffStrip.File
