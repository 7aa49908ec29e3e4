import CivilTime.Width
import CivilTime.Error
import CivilTime.Text.Decimal
import CivilTime.Text.Cut
import CivilTime.Text.Blank
import CivilTime.Text.LengthHint
import CivilTime.Text.Hex
import CivilTime.Text.Utf8
import CivilTime.Date.Basic
import CivilTime.Date.Calendar
import CivilTime.Date.AbsoluteDay
import CivilTime.Date.Months
import CivilTime.Date.Week
import CivilTime.Date.Printer
import CivilTime.Date.Reader
import CivilTime.Clock.Basic
import CivilTime.Clock.Printer
import CivilTime.Clock.Reader
import CivilTime.Zone.Offset
import CivilTime.Zone.Record
import CivilTime.Zone.Source
import CivilTime.Zone.Basic
import CivilTime.Zone.Rule
import CivilTime.Zone.RuleReader
import CivilTime.Zone.History
import CivilTime.Zone.FileReader
import CivilTime.Zone.Catalogue
import CivilTime.Zone.BundleData
import CivilTime.Zone.Bundle
import CivilTime.Local.Fields
import CivilTime.Local.Calendar
import CivilTime.Local.DefaultZone
import CivilTime.Local.Context
import CivilTime.Literal.Basic
import CivilTime.Literal.Field
import CivilTime.Literal.Printer
import CivilTime.Literal.Reader
import CivilTime.Session.Basic
import CivilTime.Session.Request
import CivilTime.Pattern.Locale
import CivilTime.Pattern.Request
import CivilTime.Pattern.MillisEngine
import CivilTime.Proofs.Date.Layout
import CivilTime.Proofs.Date.MarchDay
import CivilTime.Proofs.Date.AbsoluteDay
import CivilTime.Proofs.Date.Order
import CivilTime.Proofs.Date.Year
import CivilTime.Proofs.Date.Weekday
import CivilTime.Proofs.Date.Week
import CivilTime.Proofs.Date.DayOfYear
import CivilTime.Proofs.Date.Months
import CivilTime.Proofs.Literal.Field
import CivilTime.Proofs.Zone.Steady
import CivilTime.Proofs.Zone.Candidates
import CivilTime.Proofs.Zone.Repeated
import CivilTime.Proofs.Local.Fields
import CivilTime.Proofs.Session.Basic
import CivilTime.Proofs.Local.Resolution
import CivilTime.Proofs.Local.Nanos
import CivilTime.Proofs.Text.Decimal
import CivilTime.Proofs.Text.Number
import CivilTime.Proofs.Date.Text
import CivilTime.Proofs.Date.Form
import CivilTime.Proofs.Clock.Text
import CivilTime.Proofs.Clock.Parts
import CivilTime.Proofs.Clock.Range
import CivilTime.Proofs.Clock.Interval
import CivilTime.Proofs.Clock.Moment
import CivilTime.Proofs.Zone.Offset
import CivilTime.Proofs.Zone.Designator
import CivilTime.Proofs.Literal.RoundTrip
import CivilTime.Proofs.Literal.ZoneName
import CivilTime.Proofs.Session.Run
import CivilTime.Proofs.Zone.Rule
import CivilTime.Proofs.Zone.RuleDay
import CivilTime.Proofs.Zone.History
import CivilTime.Proofs.Zone.FileReader
import CivilTime.Proofs.Local.FixedZone
import CivilTime.Proofs.Local.Carrying
import CivilTime.Proofs.Local.Refusal
import CivilTime.Proofs.Literal.Separator
import CivilTime.Proofs.Literal.Written
import CivilTime.Proofs.Literal.DefaultZone
import CivilTime.Proofs.Literal.Modes
import CivilTime.Proofs.Text.Position
import CivilTime.Proofs.Text.Reading
import CivilTime.Proofs.Clock.Stored
import CivilTime.Proofs.Clock.TimeOfDay
import CivilTime.Proofs.Clock.Points
import CivilTime.Proofs.Literal.Positions
import CivilTime.Proofs.Literal.Total
import CivilTime.Proofs.Literal.LengthHint
