import ServiceHost.Opening.Preface
import ServiceHost.Opening.RequestLine

/-!
# Classifying a connection

The verdict is a function of the octets seen so far, so it can be asked again after every read.
Openings that agree with the HTTP/2 preface as far as they go are never read as HTTP/1.
-/

namespace ServiceHost

/-- The verdict, for one way of decompressing header blocks. -/
def classifyWith (decompress : Preface.Decompress) (octets : Octets) : Verdict :=
  if octets.isPrefixOf Preface.octets ∧ octets.length < Preface.octets.length then .needMore
  else if Preface.octets.isPrefixOf octets then
    Preface.classifyFrames decompress .beforeHeaders (octets.drop Preface.octets.length)
  else RequestLine.classify octets

/-- The verdict on the octets of a connection so far. -/
def classify (octets : Octets) : Verdict :=
  classifyWith HeaderBlock.decode? octets

end ServiceHost
