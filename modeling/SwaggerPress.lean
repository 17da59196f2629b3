import SwaggerPress.Main
import SwaggerPress.Proofs.Capture.Listing
import SwaggerPress.Proofs.Merge.Frame
import SwaggerPress.Proofs.Pipeline.Answer
import SwaggerPress.Proofs.Resolution
import SwaggerPress.Proofs.Document.Artifact
import SwaggerPress.Proofs.Assembly
import SwaggerPress.Proofs.Document.Place
import SwaggerPress.Proofs.Pipeline.Published
import SwaggerPress.Proofs.CommandLine.Publication
import SwaggerPress.Proofs.Pipeline.Overridden
import SwaggerPress.Proofs.Pipeline.Translation
import SwaggerPress.Proofs.Pipeline.Absent
import SwaggerPress.Proofs.Merge.Permutation
import SwaggerPress.Proofs.Capture.ReadBack
import SwaggerPress.Proofs.Capture.Repetition
import SwaggerPress.Proofs.Pipeline.Completeness
import SwaggerPress.Proofs.Merge.Report
import SwaggerPress.Proofs.Document.Summary
import SwaggerPress.Proofs.PathTemplate.Segments
import SwaggerPress.Proofs.FileTree.Frame
