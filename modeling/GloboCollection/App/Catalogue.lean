import Mathlib.Data.List.Basic

/-!
# The sticker catalogue

What `CollectionViewController` declares and what its `viewDidLoad` builds:
the albums with their stickers, and the list behind the "recents" row. A
sticker keeps the fields some screen reads; the category and the album name
are never read again and are left out, as are an album's own title and
pictures.

The rest of the model takes the albums as a parameter, so that a statement
about every catalogue is one about this parameter; `models` is the one the
app is built with.
-/

namespace GloboCollection

/-- A sticker. -/
structure Collection where
  id : Int
  nome : String
  imagemDesbloqueada : String
  imagemBloqueada : String
  raridade : Bool
  descricao : String
  stickerScore : Int
deriving DecidableEq, Repr

/-- An album, as far as a tap on it goes: the stickers it opens. -/
structure Model where
  figurinhas : List Collection
deriving DecidableEq, Repr

/-- A sticker of the "recents" row, as far as its cell reads it. -/
structure ModelRecents where
  id : Int
  imagemDesbloqueada : String
deriving DecidableEq, Repr

/-- All stickers of the given albums. -/
def catalogue (models : List Model) : List Collection :=
  models.flatMap fun m => m.figurinhas

theorem mem_catalogue {models : List Model} {m : Model} {c : Collection}
    (hm : m ∈ models) (hc : c ∈ m.figurinhas) : c ∈ catalogue models :=
  List.mem_flatMap.mpr ⟨m, hm, hc⟩

namespace CollectionViewController

/-! ## The hard-coded stickers -/

def collection1 : Collection where
  id := 1
  nome := "RoBBB Mau"
  imagemDesbloqueada := "url_1"
  imagemBloqueada := "urlBloq_1"
  raridade := true
  descricao := "RoBBB Mau, a personificação do Castigo do Monstro. Nele, a produção " ++
    "determina ações desconfortáveis ao longo de todo um final de semana."
  stickerScore := 10

def collection2 : Collection where
  id := 2
  nome := "McDonald’s"
  imagemDesbloqueada := "url_2"
  imagemBloqueada := "urlBloq_2"
  raridade := true
  descricao := "Patrocinador oficial do BBB, transformando lanches em estrelas do " ++
    "reality show mais saboroso! Quem criará a próxima Méquizice " ++
    "surpreendente? 🍔✨"
  stickerScore := 10

def collection3 : Collection where
  id := 3
  nome := "Karol Conká"
  imagemDesbloqueada := "url_3"
  imagemBloqueada := "urlBloq_3"
  raridade := false
  descricao := "Figurinha icônica representando a cantora Karol Conká."
  stickerScore := 20

def collection4 : Collection where
  id := 4
  nome := "Big Fone"
  imagemDesbloqueada := "url_4"
  imagemBloqueada := "urlBloq_4"
  raridade := false
  descricao := "Elemento icônico do Big Brother Brasil que promete trazer uma " ++
    "surpresa para o jogo. Quem o atender pode ser imunizado, eliminado ou " ++
    "encaminhado ao paredão… tudo pode acontecer!"
  stickerScore := 10

def collection5 : Collection where
  id := 5
  nome := "Pedro Bial"
  imagemDesbloqueada := "url_5"
  imagemBloqueada := "urlBloq_5"
  raridade := false
  descricao := "Figurinha do querido Ex apresentador Pedro Bial."
  stickerScore := 20

def collection6 : Collection where
  id := 6
  nome := "Tiago Leifert"
  imagemDesbloqueada := "url_6"
  imagemBloqueada := "urlBloq_6"
  raridade := false
  descricao := "Figurinha do apresentador Tiago Leifert."
  stickerScore := 20

def collection7 : Collection where
  id := 7
  nome := "Viih Tube"
  imagemDesbloqueada := "url_7"
  imagemBloqueada := "urlBloq_7"
  raridade := false
  descricao := "Figurinha da blogueira e ex BBB Viih Tube."
  stickerScore := 20

def collection8 : Collection where
  id := 8
  nome := "RoBBB Verde"
  imagemDesbloqueada := "url_8"
  imagemBloqueada := "urlBloq_8"
  raridade := false
  descricao := "Figurinha icônica representando o RoBBB Verde."
  stickerScore := 20

def collection9 : Collection where
  id := 9
  nome := "RoBBB Rosa"
  imagemDesbloqueada := "url_9"
  imagemBloqueada := "urlBloq_9"
  raridade := false
  descricao := "Figurinha icônica representando o RoBBB Rosa"
  stickerScore := 20

def collection10 : Collection where
  id := 10
  nome := "RoBBB Azul"
  imagemDesbloqueada := "url_10"
  imagemBloqueada := "urlBloq_10"
  raridade := false
  descricao := "Figurinha icônica representando o RoBBB Azul"
  stickerScore := 20

def collection11 : Collection where
  id := 11
  nome := "Juliette"
  imagemDesbloqueada := "url_11"
  imagemBloqueada := "urlBloq_11"
  raridade := false
  descricao := "Juliette, a rainha do carisma, é uma advogada que virou fenômeno após " ++
    "vencer o BBB 21. Com sua simpatia, conquistou o país e virou meme " ++
    "oficial do Brasil!"
  stickerScore := 20

def collection12 : Collection where
  id := 12
  nome := "RoBBB Anjo"
  imagemDesbloqueada := "url_12"
  imagemBloqueada := "urlBloq_12"
  raridade := true
  descricao := "Figurinha icônica representando o RoBBB Anjo."
  stickerScore := 20

def collection13 : Collection where
  id := 13
  nome := "Samsung"
  imagemDesbloqueada := "url_13"
  imagemBloqueada := "urlBloq_13"
  raridade := true
  descricao := "Figurinha do querido parceiro samsung"
  stickerScore := 20

def collection14 : Collection where
  id := 14
  nome := "Americanas"
  imagemDesbloqueada := "url_14"
  imagemBloqueada := "urlBloq_14"
  raridade := true
  descricao := "Parceira do BBB a mais de 6 anos"
  stickerScore := 20

def collection15 : Collection where
  id := 15
  nome := "Gil do Vigor"
  imagemDesbloqueada := "url_15"
  imagemBloqueada := "urlBloq_15"
  raridade := false
  descricao := "Gil do Vigor, ex-participante do Big Brother Brasil, é conhecido por " ++
    "sua autenticidade, alegria contagiante e luta pela representatividade " ++
    "LGBTQ+. Ele é um exemplo de resiliência e carisma."
  stickerScore := 10

def collection16 : Collection where
  id := 16
  nome := "Fiuk"
  imagemDesbloqueada := "url_16"
  imagemBloqueada := "urlBloq_16"
  raridade := false
  descricao := "Fiuk é um talentoso artista e músico. Sua personalidade autêntica e " ++
    "paixão pela música o tornaram um dos queridinhos do público " ++
    "brasileiro."
  stickerScore := 10

def collection17 : Collection where
  id := 17
  nome := "Tadeu Schmidt"
  imagemDesbloqueada := "url_17"
  imagemBloqueada := "urlBloq_17"
  raridade := false
  descricao := "Tadeu Schmidt é um conhecido apresentador de televisão brasileiro. " ++
    "Ele é amplamente reconhecido por seu trabalho como apresentador do " ++
    "programa 'Fantástico', exibido aos domingos na Rede Globo. Com sua " ++
    "carisma e profissionalismo, Tadeu Schmidt se tornou uma figura " ++
    "querida na televisão brasileira, trazendo notícias, entretenimento e " ++
    "informação para milhões de telespectadores."
  stickerScore := 10

def collection18 : Collection where
  id := 18
  nome := "RoBBB Roxo"
  imagemDesbloqueada := "url_18"
  imagemBloqueada := "urlBloq_18"
  raridade := false
  descricao := "Figurinha icônica representando o RoBBB Roxo"
  stickerScore := 10

def collection19 : Collection where
  id := 19
  nome := "Lais"
  imagemDesbloqueada := "url_19"
  imagemBloqueada := "urlBloq_19"
  raridade := false
  descricao := "Ex participante BBB"
  stickerScore := 10

def collection20 : Collection where
  id := 20
  nome := "Nego Di"
  imagemDesbloqueada := "url_20"
  imagemBloqueada := "urlBloq_20"
  raridade := false
  descricao := "Nego Di é um comediante brasileiro que ganhou notoriedade como " ++
    "ex-participante do Big Brother Brasil 21. Sua presença carismática e " ++
    "estilo humorístico o destacaram no programa"
  stickerScore := 10

def collection21 : Collection where
  id := 21
  nome := "João Luiz"
  imagemDesbloqueada := "url_21"
  imagemBloqueada := "urlBloq_21"
  raridade := false
  descricao := "Ex BBB21 professor universitario que marcou sendo uma plantinha!"
  stickerScore := 10

def collection22 : Collection where
  id := 22
  nome := "Rafael Portugal"
  imagemDesbloqueada := "url_22"
  imagemBloqueada := "urlBloq_22"
  raridade := false
  descricao := "Rafael Portugal é um humorista e apresentador brasileiro famoso por " ++
    "seu trabalho em programas de comédia. Conhecido por seu estilo " ++
    "humorístico único, ele se destacou no 'A Culpa é do Cabral' e pelo " ++
    "'CAT BBB'. Além da televisão, é um renomado comediante de stand-up."
  stickerScore := 10

def collection23 : Collection where
  id := 23
  nome := "Dani Calabresa"
  imagemDesbloqueada := "url_23"
  imagemBloqueada := "urlBloq_23"
  raridade := false
  descricao := "Comediante talentosa conhecida por seu humor icônico."
  stickerScore := 10

def collection24 : Collection where
  id := 24
  nome := "Paulo Vieira"
  imagemDesbloqueada := "url_24"
  imagemBloqueada := "urlBloq_24"
  raridade := false
  descricao := "Versátil humorista e roteirista de destaque."
  stickerScore := 10

def collection25 : Collection where
  id := 25
  nome := "Chevrolet"
  imagemDesbloqueada := "url_25"
  imagemBloqueada := "urlBloq_25"
  raridade := true
  descricao := "Marca patrocinadora do BBB, presente em muitas edições."
  stickerScore := 20

def collection26 : Collection where
  id := 26
  nome := "Mercado Livre"
  imagemDesbloqueada := "url_26"
  imagemBloqueada := "urlBloq_26"
  raridade := true
  descricao := "Importante parceiro de e-commerce do programa."
  stickerScore := 20

def collection27 : Collection where
  id := 27
  nome := "RoBBB Amarelo"
  imagemDesbloqueada := "url_27"
  imagemBloqueada := "urlBloq_27"
  raridade := false
  descricao := "Figurinha representando o icônico RoBBB Amarelo."
  stickerScore := 10

def collection28 : Collection where
  id := 28
  nome := "Marisa Orth"
  imagemDesbloqueada := "url_28"
  imagemBloqueada := "urlBloq_28"
  raridade := false
  descricao := "Talentosa atriz e apresentadora de televisão."
  stickerScore := 10

/-- The albums of the app; only the first has stickers so far. -/
def models : List Model :=
  [⟨[collection1, collection2, collection3, collection4, collection5,
      collection6, collection7, collection8, collection9, collection10,
      collection11, collection12, collection13, collection14, collection15,
      collection16, collection17, collection18, collection19, collection20,
      collection21, collection22, collection23, collection24, collection25,
      collection26, collection27, collection28]⟩,
    ⟨[]⟩, ⟨[]⟩, ⟨[]⟩, ⟨[]⟩]

/-- The "recents" row: one cell for each of the 28 stickers. -/
def recents : List ModelRecents :=
  (List.range 28).map fun i => ⟨i + 1, s!"url_{i + 1}"⟩

/-- The ids of the hard-coded stickers are the numbers from 1 to 28. -/
theorem catalogue_ids :
    (catalogue models).map Collection.id =
      (List.range 28).map fun i => (i : Int) + 1 := by decide

end CollectionViewController

end GloboCollection
