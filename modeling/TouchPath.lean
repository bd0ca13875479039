import TouchPath.Main
import TouchPath.Proofs.Path
import TouchPath.Proofs.Timeline
import TouchPath.Proofs.Compile
import TouchPath.Proofs.Param
import TouchPath.Proofs.Report
import TouchPath.Proofs.Plan
import TouchPath.Proofs.Rounding
import TouchPath.Proofs.Truncation
import TouchPath.Proofs.Arc
import TouchPath.Proofs.Bisection
import TouchPath.Proofs.Pace
import TouchPath.Proofs.Circle
import TouchPath.Proofs.Shape
import TouchPath.Proofs.Registry
import TouchPath.Proofs.Script
import TouchPath.Proofs.Growth
import TouchPath.Proofs.Record
import TouchPath.Proofs.Steps
import TouchPath.Proofs.Concatenation
import TouchPath.Proofs.Spelling
import TouchPath.Proofs.Rectangle
import TouchPath.Proofs.JsonText
import TouchPath.Proofs.Finger
import TouchPath.Proofs.Delivery
import TouchPath.Proofs.Drawing
import TouchPath.Proofs.Settings
import TouchPath.Proofs.Containment
import TouchPath.Proofs.Document
import TouchPath.Proofs.Defaults
import TouchPath.Proofs.Delay
import TouchPath.Proofs.Start
import TouchPath.Geometry.Sheet
import TouchPath.Gesture.Word
import TouchPath.Proofs.Sheet
import TouchPath.Proofs.PointForm
import TouchPath.Proofs.Screen
import TouchPath.Proofs.Target
import TouchPath.Proofs.Frame
import TouchPath.Proofs.Pinch
import TouchPath.Proofs.Word
import TouchPath.Proofs.Entry
import TouchPath.Proofs.Quotient
import TouchPath.Proofs.Denominator
